import TunnelServer.Decimal.Binary64

/-! # Values of a document

A document is a table. Its entries keep the order in which they were written. Tables remember how
they came about, because that decides whether they may still be extended.
-/

namespace TunnelServer.Toml

inductive TableKind where
  /-- Its own header opened it, or it is an element of an array of tables. -/
  | header
  /-- The header of a table inside it implied it. -/
  | implied
  /-- A dotted key made it. -/
  | dotted
  /-- It was written in braces, all at once. -/
  | inline
deriving DecidableEq, Repr

inductive Value where
  | string (text : String)
  | integer (value : Int)
  | float (value : Binary64)
  | boolean (value : Bool)
  /-- A date, a time, or both. -/
  | dateTime
  | array (items : List Value)
  | table (kind : TableKind) (entries : List (String × Value))
  /-- Tables that were opened one after another by headers in double brackets. -/
  | tables (elements : List (List (String × Value)))

abbrev Entries := List (String × Value)

end TunnelServer.Toml
