import BookIndex.Entry
import Mathlib.Data.List.Induction

/-!
# Entry.Levels — every entry has a level

A splitter closes its first level before it comes into the format, and the end of the tokens closes
one otherwise.  So every list of tokens specifies an entry with at least one level.
-/

namespace BookIndex

namespace Splitter

/-- A level is closed before the format begins. -/
def Closed (s : Splitter) : Prop :=
  s.inFormat = true → s.keys ≠ []

theorem closed_step {s : Splitter} (hs : s.Closed) (t : Token) : (s.step t).Closed := by
  intro hformat
  unfold step at hformat ⊢
  by_cases hquoting : s.quoting
  · rw [if_pos hquoting] at hformat ⊢
    exact hs hformat
  · rw [if_neg hquoting] at hformat ⊢
    by_cases hin : s.inFormat
    · have hkeys : s.keys ≠ [] := hs hin
      cases Mark.ofToken? t with
      | none => exact hkeys
      | some mark => cases mark <;> simpa [hin, push] using hkeys
    · cases hmark : Mark.ofToken? t with
      | none =>
        rw [hmark] at hformat
        exact absurd hformat hin
      | some mark =>
        rw [hmark] at hformat
        cases mark with
        | quote => exact absurd hformat hin
        | level =>
          by_cases hmax : s.keys.length + 1 < maxLevels
          · simp [hin, hmax, closeLevel]
          · simp [hin, hmax, push] at hformat
        | sort => simp [hin, closeSortKey] at hformat
        | format => simp [hin, closeLevel]

theorem closed_foldl_step (ts : List Token) : (ts.foldl step start).Closed := by
  induction ts using List.reverseRecOn with
  | nil => exact fun hformat => absurd hformat (by simp [start])
  | append_singleton ts t ih =>
    rw [List.foldl_append]
    exact closed_step ih t

theorem keys_finish_ne_nil {s : Splitter} (hs : s.Closed) : s.finish.keys ≠ [] := by
  unfold finish
  by_cases hin : s.inFormat
  · rw [if_pos hin]
    simpa using hs hin
  · rw [if_neg hin]
    simp [closeLevel]

end Splitter

theorem RawEntry.keys_ofTokens_ne_nil (ts : List Token) : (RawEntry.ofTokens ts).keys ≠ [] :=
  Splitter.keys_finish_ne_nil (Splitter.closed_foldl_step ts)

theorem RawEntry.map_key_levels_resolve (e : Expander) (raw : RawEntry) (destination : Nat) :
    (raw.resolve e destination).levels.map (·.key) = raw.keys.map e.expand := by
  unfold resolve
  split <;> exact Level.map_key_ofKeys _ _

/-- Every list of tokens specifies an entry with a level. -/
theorem Entry.levels_ofTokens_ne_nil (e : Expander) (ts : List Token) (destination : Nat) :
    (Entry.ofTokens e ts destination).levels ≠ [] := by
  intro hnil
  have hkeys := RawEntry.map_key_levels_resolve e (RawEntry.ofTokens ts) destination
  rw [show (RawEntry.resolve e (.ofTokens ts) destination).levels = [] from hnil] at hkeys
  exact RawEntry.keys_ofTokens_ne_nil ts (List.map_eq_nil_iff.1 hkeys.symm)

theorem Entry.destination_ofTokens (e : Expander) (ts : List Token) (destination : Nat) :
    (Entry.ofTokens e ts destination).destination = destination := by
  unfold Entry.ofTokens RawEntry.resolve
  split <;> rfl

end BookIndex
