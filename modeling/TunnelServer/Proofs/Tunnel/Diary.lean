import TunnelServer.Proofs.Tunnel.Promptness

/-!
# The diary of a relay

The steps that one relay makes are written down, the first step first, while others move as they
like in between. Whatever a tunnel comes to, each of its relays has a diary of how it got there; in
turns nothing comes between a look of the relay at its tunnel and what it does upon that.
-/

namespace TunnelServer

/-- A step of a relay: when it was made, and the relay and what it shares, before and after. -/
structure Deed where
  now : Nat
  before : Relay
  context : Context
  after : Relay
  shared : Context

namespace Tunnel

/-- The relay at this place is not about to read or to write because it has seen an open tunnel. -/
def Disengaged (index : Nat) (tunnel : Tunnel) : Prop :=
  ∀ relay, tunnel.relays[index]? = some relay → ¬ relay.phase.Engaged

/-- Moves of a tunnel, with the steps that one of its relays made. Where `atomic` holds, nobody else
does anything while that relay is about to read or to write. -/
inductive Diary (allowed : Operation → Prop) (atomic : Prop) (index : Nat) (first : Tunnel) :
    Tunnel → List Deed → Prop where
  | refl : Diary allowed atomic index first first []
  | own {tunnel deeds relay after context} :
      Diary allowed atomic index first tunnel deeds →
      tunnel.relays[index]? = some relay →
      relay.step? tunnel.now tunnel.context = some (after, context) →
      Diary allowed atomic index first (tunnel.replace index relay after context)
        (deeds ++ [⟨tunnel.now, relay, tunnel.context, after, context⟩])
  | other {tunnel deeds place relay after context} :
      Diary allowed atomic index first tunnel deeds → place ≠ index →
      (atomic → tunnel.Disengaged index) →
      tunnel.relays[place]? = some relay →
      relay.step? tunnel.now tunnel.context = some (after, context) →
      Diary allowed atomic index first (tunnel.replace place relay after context) deeds
  | elapse {tunnel deeds later} :
      Diary allowed atomic index first tunnel deeds → tunnel.now ≤ later →
      (∀ relay ∈ tunnel.relays, relay.Idles tunnel.now tunnel.context later) →
      Diary allowed atomic index first { tunnel with now := later } deeds
  | call {tunnel deeds operation} :
      Diary allowed atomic index first tunnel deeds → (atomic → tunnel.Disengaged index) →
      allowed operation → Diary allowed atomic index first (tunnel.perform operation) deeds

variable {allowed : Operation → Prop} {atomic : Prop} {index place : Nat}
  {first last tunnel : Tunnel} {deeds : List Deed} {relay after : Relay} {context : Context}

theorem Disengaged.replace (h : tunnel.Disengaged index) (other : place ≠ index) :
    (tunnel.replace place relay after context).Disengaged index := by
  intro known hk
  exact h known ((getElem?_replace_ne other).symm.trans hk)

theorem Diary.reaches (h : Diary allowed atomic index first last deeds) :
    Reaches allowed first last := by
  induction h with
  | refl => exact .refl
  | own _ hr step ih => exact ih.tail (.step hr step)
  | other _ _ _ hr step ih => exact ih.tail (.step hr step)
  | elapse _ goes idle ih => exact ih.tail (.elapse goes idle)
  | call _ _ may ih => exact ih.tail (.call may)

theorem Diary.step (h : Diary allowed atomic index first tunnel deeds)
    (quiet : atomic → place ≠ index → tunnel.Disengaged index)
    (hr : tunnel.relays[place]? = some relay)
    (step : relay.step? tunnel.now tunnel.context = some (after, context)) :
    ∃ more, Diary allowed atomic index first (tunnel.replace place relay after context) more := by
  by_cases own : place = index
  · subst own
    exact ⟨_, h.own hr step⟩
  · exact ⟨deeds, h.other own (fun whole => quiet whole own) hr step⟩

theorem Diary.run {shared : Context} (h : Diary allowed atomic index first tunnel deeds)
    (quiet : atomic → place ≠ index → tunnel.Disengaged index)
    (hr : tunnel.relays[place]? = some relay) (same : tunnel.context = context)
    (run : relay.Runs tunnel.now context after shared) :
    ∃ more, Diary allowed atomic index first (tunnel.replace place relay after shared) more := by
  generalize moment : tunnel.now = now at run
  induction run generalizing tunnel deeds with
  | waits =>
    subst same
    rw [replace_self hr]
    exact ⟨deeds, h⟩
  | @steps relay _ next between _ _ step rest ih =>
    subst same moment
    obtain ⟨more, diary⟩ := h.step quiet hr step
    rw [← replace_replace (Relay.isPrefix_log_of_step? step) rest.isPrefix_log]
    exact ih diary (fun whole other => (quiet whole other).replace other)
      (getElem?_replace_self hr) rfl rfl

/-- Between turns a relay is not about to read or to write, so turns do not come between its look at
the tunnel and what it does upon that. -/
theorem TakesTurns.exists_diary (h : TakesTurns allowed first last)
    (started : first.relays[index]? = some relay) (idle : ¬ relay.phase.Engaged) :
    ∃ deeds, Diary allowed True index first last deeds := by
  induction h with
  | refl => exact ⟨[], .refl⟩
  | @tail middle _ turns turn ih =>
    obtain ⟨deeds, diary⟩ := ih
    have quiet : middle.Disengaged index := by
      intro known hk
      obtain ⟨found, hf, rests⟩ := turns.not_engaged ⟨relay, started, idle⟩
      obtain rfl : known = found := Option.some.inj (hk.symm.trans hf)
      exact rests
    cases turn with
    | run hr run => exact diary.run (fun _ _ => quiet) hr rfl run
    | elapse goes idle => exact ⟨deeds, diary.elapse goes idle⟩
    | call may => exact ⟨deeds, diary.call (fun _ => quiet) may⟩

end Tunnel

end TunnelServer
