import BookIndex.Index
import BookIndex.Proofs.Entry.Levels
import BookIndex.Proofs.Heading.Sorted
import BookIndex.Text.Spellings

/-!
# Index.Calls — every entry is taken once

A builder is called in any order: some calls add an entry, the others take all that is collected, as a
sorted list or as an index.  The calls that take end a round each, and `rounds` are the entries that were
added in every round, read off the calls alone.  The results of a run are the finished rounds, and what
the builder has in the end is the last one (`exists_finished_rounds`).
-/

namespace BookIndex

open Heading

/-- A mention of a heading as a forest lists it: the levels that lead to it, and the page. -/
def Entry.mention (entry : Entry) : List Level × PageRef := (entry.levels, entry.page)

namespace Builder

/-- A call on a builder. -/
inductive Call where
  | add (entry : Entry)
  | addTokens (e : Expander) (ts : List Token) (destination : Nat)
  | drain (collation : Collation)
  | digest (engine : Engine) (kind : IndexKind)

/-- The entry that a call adds; a call that adds none takes what is collected. -/
def Call.entry? : Call → Option Entry
  | add entry => some entry
  | addTokens e ts destination => some (.ofTokens e ts destination)
  | drain _ | digest _ _ => none

/-- What a call takes. -/
inductive Taken where
  | drained (entries : List Entry)
  | digested (index : Index)

/-- What a call takes from the builder, and the builder after it. -/
def call (b : Builder) : Call → Option Taken × Builder
  | .add entry => (none, b.add entry)
  | .addTokens e ts destination => (none, (b.addTokens e ts destination).2)
  | .drain collation => (some (.drained (b.drain collation).1), (b.drain collation).2)
  | .digest engine kind => (some (.digested (b.digest engine kind).1), (b.digest engine kind).2)

/-- What a run of calls takes in turn, and the builder after it. -/
def run (b : Builder) : List Call → List Taken × Builder
  | [] => ([], b)
  | c :: calls => ((b.call c).1.toList ++ (run (b.call c).2 calls).1, (run (b.call c).2 calls).2)

/-- The entries that calls add, cut wherever a call takes what is collected, where `collected` are those
of the round under way. -/
def rounds (collected : List Entry) : List Call → List (List Entry)
  | [] => [collected]
  | c :: calls =>
    match c.entry? with
    | some entry => rounds (collected ++ [entry]) calls
    | none => collected :: rounds [] calls

/-- A result holds the entries of a round, each once.  In an index they are the mentions of headings, and
the index tells how many there are. -/
inductive Taken.Holds (round : List Entry) : Taken → Prop
  | drained {entries : List Entry} : entries.Perm round → Holds round (.drained entries)
  | digested {index : Index} :
    (mentionsAll [] index.forest).Perm (round.map Entry.mention) →
    index.entryCount = ((rowsAll 0 index.forest).map (·.2.pages.length)).sum →
    index.entryCount = round.length → Holds round (.digested index)

/-! ### One call -/

theorem call_of_entry? (b : Builder) {c : Call} {entry : Entry} (hc : c.entry? = some entry) :
    b.call c = (none, b.add entry) := by
  cases c with
  | add entry' =>
    obtain rfl := Option.some.inj hc
    rfl
  | addTokens e ts destination =>
    obtain rfl := Option.some.inj hc
    rfl
  | drain _ => cases hc
  | digest _ _ => cases hc

/-- The index of entries lists them, and counts its pages. -/
theorem holds_ofEntries (engine : Engine) (kind : IndexKind) {entries : List Entry}
    (hlevels : ∀ entry ∈ entries, entry.levels ≠ []) :
    Taken.Holds entries (.digested (.ofEntries engine kind entries)) := by
  have hperm := Entry.sort_perm engine.collation entries
  have hmentions : mentionsAll [] (Index.ofEntries engine kind entries).forest =
      (Entry.sort engine.collation entries).map Entry.mention :=
    (Merge.inOrder_of_pairwise (Entry.pairwise_sort engine.collation entries)).mentionsAll_eq
      fun entry hentry => hlevels entry (hperm.mem_iff.1 hentry)
  have hcount := Index.entryCount_ofEntries engine kind entries
  have hpages : ((rowsAll 0 (Index.ofEntries engine kind entries).forest).map (·.2.pages.length)).sum =
      entries.length := by
    have hlength := congrArg List.length
      (map_snd_mentionsAll [] 0 (Index.ofEntries engine kind entries).forest)
    rw [hmentions, List.length_map, List.length_map, hperm.length_eq, List.length_flatMap] at hlength
    exact hlength.symm
  refine .digested ?_ (hcount.trans hpages.symm) hcount
  rw [hmentions]
  exact hperm.map _

/-- A call that adds no entry takes all that is collected. -/
theorem exists_call_eq (b : Builder) {c : Call} (hc : c.entry? = none)
    (hlevels : ∀ entry ∈ b.entries, entry.levels ≠ []) :
    ∃ taken : Taken, b.call c = (some taken, empty) ∧ taken.Holds b.entries := by
  cases c with
  | add _ => cases hc
  | addTokens _ _ _ => cases hc
  | drain collation => exact ⟨_, rfl, .drained (Entry.sort_perm collation b.entries)⟩
  | digest engine kind => exact ⟨_, rfl, holds_ofEntries engine kind hlevels⟩

/-! ### Runs -/

/-- Rounds neither lose nor repeat an added entry. -/
theorem flatten_rounds (collected : List Entry) (calls : List Call) :
    (rounds collected calls).flatten = collected ++ calls.filterMap Call.entry? := by
  induction calls generalizing collected with
  | nil => simp [rounds]
  | cons c calls ih =>
    unfold rounds
    cases hc : c.entry? with
    | some entry =>
      rw [List.filterMap_cons_some hc]
      simp [ih]
    | none =>
      rw [List.filterMap_cons_none hc]
      simp [ih]

theorem exists_finished_rounds {b : Builder} (hb : ∀ entry ∈ b.entries, entry.levels ≠ [])
    {calls : List Call} (hlevels : ∀ c ∈ calls, ∀ entry, c.entry? = some entry → entry.levels ≠ []) :
    ∃ finished, rounds b.entries calls = finished ++ [(b.run calls).2.entries] ∧
      List.Forall₂ Taken.Holds finished (b.run calls).1 := by
  induction calls generalizing b with
  | nil => exact ⟨[], rfl, .nil⟩
  | cons c calls ih =>
    obtain ⟨hfirst, hrest⟩ := List.forall_mem_cons.1 hlevels
    cases hc : c.entry? with
    | some entry =>
      have hadd : ∀ e ∈ (b.add entry).entries, e.levels ≠ [] := by
        rw [entries_add]
        exact List.forall_mem_append.2 ⟨hb, List.forall_mem_singleton.2 (hfirst entry hc)⟩
      obtain ⟨finished, hrounds, hholds⟩ := ih hadd hrest
      rw [entries_add] at hrounds
      refine ⟨finished, ?_, ?_⟩
      · rw [rounds, hc, run, call_of_entry? b hc]
        exact hrounds
      · rw [run, call_of_entry? b hc]
        exact hholds
    | none =>
      obtain ⟨taken, hcall, htaken⟩ := b.exists_call_eq hc hb
      obtain ⟨finished, hrounds, hholds⟩ := ih (b := empty) (by simp) hrest
      rw [entries_empty] at hrounds
      refine ⟨b.entries :: finished, ?_, ?_⟩
      · rw [rounds, hc, run, hcall]
        simp [hrounds]
      · rw [run, hcall]
        exact .cons htaken hholds

/-- In every run of calls on a builder that is empty at first, each call that takes entries takes those
added since the call before it that took any, all of them and each once, and the builder keeps those added
since the last such call.  An index has as many pages as entries. -/
theorem takes_every_entry_once (calls : List Call)
    (hlevels : ∀ entry, .add entry ∈ calls → entry.levels ≠ []) :
    (rounds [] calls).flatten = calls.filterMap Call.entry? ∧
      ∃ finished, rounds [] calls = finished ++ [(empty.run calls).2.entries] ∧
        List.Forall₂ Taken.Holds finished (empty.run calls).1 := by
  refine ⟨flatten_rounds [] calls, exists_finished_rounds (b := empty) (by simp) ?_⟩
  intro c hc entry hentry
  cases c with
  | add entry' =>
    obtain rfl := Option.some.inj hentry
    exact hlevels entry' hc
  | addTokens e ts destination =>
    obtain rfl := Option.some.inj hentry
    exact Entry.levels_ofTokens_ne_nil e ts destination
  | drain _ => cases hentry
  | digest _ _ => cases hentry

/-- A run of three rounds: a list is taken, then an index, and an entry is left. -/
def threeRounds : List Call :=
  let collation := Collation.ofKinds .caseFold .identity
  [.add ⟨[⟨[.text "b"], "b"⟩, ⟨[.text "c"], "c"⟩], none, .normal, 0⟩,
    .addTokens .standard [.char 'a' .letter] 1, .drain collation,
    .addTokens .standard [.char 'b' .letter] 2, .add ⟨[⟨[.text "a"], "a"⟩], none, .normal, 3⟩,
    .addTokens .standard [.char 'b' .letter] 4, .digest ⟨.standard, collation⟩ .command,
    .add ⟨[⟨[.text "b"], "b"⟩], none, .see, 0⟩]

/-- The index has two pages at one of its headings, and none of the entries of the other rounds. -/
theorem takes_every_entry_once_threeRounds :
    (∀ entry, .add entry ∈ threeRounds → entry.levels ≠ []) ∧
      (rounds [] threeRounds).map List.length = [2, 3, 1] ∧
      (∃ entries index, (empty.run threeRounds).1 = [.drained entries, .digested index] ∧
        index.forest.map (fun h => (h.level.sortKey, h.pages.length)) = [("a", 1), ("b", 2)]) ∧
      ∃ finished, rounds [] threeRounds = finished ++ [(empty.run threeRounds).2.entries] ∧
        List.Forall₂ Taken.Holds finished (empty.run threeRounds).1 := by
  have hlevels : ∀ entry, .add entry ∈ threeRounds → entry.levels ≠ [] := by
    intro entry hentry
    simp only [threeRounds, List.mem_cons, Call.add.injEq, reduceCtorEq, List.not_mem_nil, false_or,
      or_false] at hentry
    rcases hentry with rfl | rfl | rfl <;> simp
  refine ⟨hlevels, rfl, ⟨_, _, rfl, ?_⟩, (takes_every_entry_once threeRounds hlevels).2⟩
  cbv

end Builder

end BookIndex
