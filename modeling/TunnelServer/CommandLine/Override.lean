import TunnelServer.CommandLine.Arguments
import TunnelServer.Config.Read
import TunnelServer.Io.File

/-! # Command line over file

A configuration file is read first, if one is named; then whatever was given on the command line
takes the place of what the file says.
-/

namespace TunnelServer.CommandLine

/-- The configuration with what was given on the command line in place of its own values. -/
def Arguments.override (arguments : Arguments) (config : Config) : Config :=
  let server := config.server
  { server := { server with
      password := arguments.password.getD server.password
      port := arguments.serverPort.getD server.port
      cert := arguments.cert.getD server.cert
      privateKey := arguments.privateKey.getD server.privateKey
      debug := arguments.debug || server.debug
      sendBufferSize := arguments.sendBuffer.getD server.sendBufferSize
      recvBufferSize := arguments.recvBuffer.getD server.recvBufferSize }
    logging := { config.logging with
      level := arguments.logLevel.getD config.logging.level } }

/-- The configuration of the file that was named, or the standard one. -/
def Arguments.baseConfig (arguments : Arguments) (files : FileSystem) :
    Except LoadError Config :=
  match arguments.config with
  | none => .ok .standard
  | some path => Config.load (files.readFile path)

def Arguments.effectiveConfig (arguments : Arguments) (files : FileSystem) :
    Except LoadError Config :=
  (arguments.baseConfig files).map arguments.override

end TunnelServer.CommandLine
