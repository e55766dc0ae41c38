import BookIndex.Proofs.Expander.Leaves
import BookIndex.Proofs.Fragment.Filled
import BookIndex.Proofs.Heading.Merging
import BookIndex.Proofs.Token.Canonical
import Mathlib

/-!
# Entry.Formats — the page number in the format of an entry

Expansion makes one placeholder of every control sequence that names it, and no other.  No text can name
it, since its name is neither a word nor a single character.  So a format that is written in a text gets
the one placeholder that is added at its end, and none is left once the page number is filled in.
-/

namespace BookIndex

/-! ### Placeholders of an expansion -/

theorem Nesting.count_contribution (n : Nesting) (e : Expander) (t : Token) :
    (n.contribution e t).count .pageNumber =
      if t = .control Token.pageNumberName then 1 else 0 := by
  cases t with
  | char c category =>
    rw [if_neg (by simp)]
    cases category with
    | beginGroup => by_cases hmax : n.groups < maxNesting <;> simp [contribution, hmax]
    | endGroup => by_cases hliteral : 0 < n.literal <;> simp [contribution, hliteral]
    | letter | other | space => simp [contribution]
  | control name =>
    have htext (s : String) : (Leaf.ofText s).count .pageNumber = 0 :=
      List.count_eq_zero.2 (Leaf.pageNumber_notMem_ofText s)
    by_cases hnumber : name = Token.pageNumberName
    · simp [contribution, hnumber]
    · rw [if_neg (by simpa using hnumber), contribution, if_neg hnumber]
      split
      · exact htext _
      · split
        · rfl
        · exact htext _

namespace Expansion

theorem count_leaves_step (e : Expander) (s : Expansion) (t : Token) :
    (s.step e t).leaves.count .pageNumber =
      s.leaves.count .pageNumber + if t = .control Token.pageNumberName then 1 else 0 := by
  rw [leaves_step, List.count_append, ← s.nesting.count_contribution e t]
  split
  case isFalse => rfl
  case isTrue hblank =>
    -- A blank that vanishes is no placeholder.
    have hspace : t.isSpace = true := (Bool.and_eq_true_iff.1 hblank).2
    have hne : t ≠ .control Token.pageNumberName := by
      rintro rfl
      exact Bool.false_ne_true hspace
    rw [Nesting.count_contribution, if_neg hne]
    rfl

theorem count_leaves_foldl_step (e : Expander) (ts : List Token) (s : Expansion) :
    (ts.foldl (step e) s).leaves.count .pageNumber =
      s.leaves.count .pageNumber + ts.count (.control Token.pageNumberName) := by
  induction ts generalizing s with
  | nil => rfl
  | cons t ts ih =>
    rw [List.foldl_cons, ih, count_leaves_step, List.count_cons]
    simp only [beq_iff_eq]
    omega

end Expansion

/-- Every control sequence that names the placeholder makes one. -/
theorem Expander.placeholders_expand (e : Expander) (ts : List Token) :
    Fragment.placeholders (e.expand ts) = ts.count (.control Token.pageNumberName) := by
  rw [Fragment.placeholders, expand, Expansion.leaves_finish, Expansion.count_leaves_foldl_step]
  exact Nat.zero_add _

/-! ### The tokens of a format -/

namespace Splitter

/-- What is in the buffer has been read. -/
theorem buffer_step_subset (s : Splitter) (t : Token) : (s.step t).buffer ⊆ t :: s.buffer := by
  have hkeep : s.buffer ⊆ t :: s.buffer := List.subset_cons_self t s.buffer
  have hpush : (s.push t).buffer ⊆ t :: s.buffer := List.Subset.refl _
  have hclose : s.closeLevel.buffer ⊆ t :: s.buffer := List.nil_subset _
  unfold step
  split
  · exact hpush
  · split
    · exact hpush
    · exact hkeep
    · split
      · exact hpush
      · split
        · split
          · exact hclose
          · exact hpush
        · exact List.nil_subset _
        · exact hclose

theorem mem_of_mem_buffer_foldl {ts : List Token} {s : Splitter} {t : Token}
    (ht : t ∈ (ts.foldl step s).buffer) : t ∈ ts ∨ t ∈ s.buffer := by
  induction ts generalizing s with
  | nil => exact .inr ht
  | cons u ts ih =>
    rcases ih ht with hmem | hmem
    · exact .inl (List.mem_cons_of_mem u hmem)
    · rcases List.mem_cons.1 (buffer_step_subset s u hmem) with rfl | hmem
      · exact .inl (List.mem_cons_self ..)
      · exact .inr hmem

end Splitter

/-- The format is made of tokens of the entry. -/
theorem RawEntry.mem_of_mem_format {ts format : List Token} (h : (ofTokens ts).format = some format)
    {t : Token} (ht : t ∈ format) : t ∈ ts := by
  unfold ofTokens Splitter.finish at h
  split at h
  · obtain rfl := Option.some.inj h
    rw [List.mem_reverse] at ht
    exact (Splitter.mem_of_mem_buffer_foldl ht).resolve_right (by simp [Splitter.start])
  · cases h

/-! ### Formats that a text can have -/

/-- No text names the placeholder. -/
theorem Token.Plain.ne_pageNumber {t : Token} (ht : t.Plain) : t ≠ .control pageNumberName := by
  rintro rfl
  rcases ht with ⟨-, hword⟩ | ⟨c, hname, -⟩
  · exact absurd hword (by decide)
  · have hlength := congrArg (·.toList.length) hname
    exact absurd hlength (by simp [pageNumberName])

namespace RawEntry

variable {format : List Token} (hplain : ∀ t ∈ format, t.Plain)

include hplain

/-- The letters in front of a format do not name the placeholder either. -/
theorem formatCommand_ne : formatCommand format ≠ Token.pageNumberName := by
  intro hname
  -- The name has a hyphen, and that is no letter.
  have hhyphen : '-' ∈ (formatCommand format).toList := by
    rw [hname]
    decide
  rw [formatCommand, String.toList_ofList, List.mem_filterMap] at hhyphen
  obtain ⟨t, ht, hchar⟩ := hhyphen
  have hletter : t.isLetter = true := List.all_eq_true.1 List.all_takeWhile t ht
  have htoken := hplain t ((List.takeWhile_prefix _).subset ht)
  cases t with
  | char c category =>
    obtain rfl : c = '-' := Option.some.inj hchar
    rw [htoken.1] at hletter
    exact absurd hletter (by decide)
  | control name => cases hchar

theorem count_formatTokens : (formatTokens format).count (.control Token.pageNumberName) = 1 := by
  have hrest : (format.dropWhile Token.isLetter).count (.control Token.pageNumberName) = 0 := by
    refine List.count_eq_zero.2 fun hmem => ?_
    exact (hplain _ ((List.dropWhile_suffix _).subset hmem)).ne_pageNumber rfl
  have hcommand : (Token.control (formatCommand format) == .control Token.pageNumberName) = false := by
    simpa using formatCommand_ne hplain
  unfold formatTokens
  dsimp only
  split
  · rw [List.count_append, hrest, List.count_singleton_self]
  · rw [List.cons_append, List.count_cons, hcommand, List.count_append, hrest,
      List.count_singleton_self]
    rfl

end RawEntry

/-- The format of an entry that is written in a text has one placeholder. -/
theorem Entry.placeholders_format {e : Expander} {text : String} {destination : Nat}
    {format : Fragment} (h : (ofTokens e (tokenize text) destination).format = some format) :
    Fragment.placeholders format = 1 := by
  unfold ofTokens RawEntry.resolve at h
  split at h
  case h_1 | h_2 => cases h
  case h_3 tokens _ htokens =>
    obtain rfl := Option.some.inj h
    rw [Expander.placeholders_expand]
    exact RawEntry.count_formatTokens fun t ht =>
      plain_tokenize (RawEntry.mem_of_mem_format htokens ht)

/-! ### What is attached -/

namespace Merge

/-- Where the format has one placeholder, the page number fills it. -/
theorem hasPageNumber_number {entry : Entry}
    (hformat : ∀ format, entry.format = some format → Fragment.placeholders format = 1) (n : Nat) :
    Fragment.hasPageNumber (number entry n) = false := by
  unfold number
  dsimp only
  cases hf : entry.format with
  | none =>
    have hleaves : Fragment.leaves (Fragment.ofText (toString n)) = Leaf.ofText (toString n) := by
      simpa [Fragment.ofText, Fragment.ofNodes, Fragment.leaves, Inline.leaves] using
        Fragment.leaves_grow [] (.text (toString n))
    refine Bool.eq_false_iff.2 fun h => ?_
    have hmem := (Fragment.hasPageNumber_iff _).1 h
    rw [Option.bind_none, Option.getD_none, hleaves] at hmem
    exact Leaf.pageNumber_notMem_ofText _ hmem
  | some format =>
    have hone := hformat format hf
    cases hfill : Fragment.fill? (toString n) format with
    | none =>
      have hzero := Fragment.hasPageNumber_eq_false_iff.1 (Fragment.hasPageNumber_eq_false_of_fill? hfill)
      omega
    | some filled =>
      have hless := Fragment.placeholders_of_fill? hfill
      rw [Option.bind_some, hfill, Option.getD_some, Fragment.hasPageNumber_eq_false_iff]
      omega

/-- An entry that is written in a text has no format, or one with a single placeholder.  So nothing that
merging such entries attaches to a place holds a placeholder. -/
theorem shows_number_once :
    (∀ e text destination format,
        (Entry.ofTokens e (tokenize text) destination).format = some format →
          Fragment.placeholders format = 1) ∧
      ∀ entries : List Entry,
        (∀ entry ∈ entries, ∃ e text destination,
          entry = Entry.ofTokens e (tokenize text) destination) →
        ∀ attachment ∈ (ofEntries entries).attachments,
          Fragment.hasPageNumber attachment.2 = false := by
  constructor
  · intro e text destination format h
    exact Entry.placeholders_format h
  · intro entries hentries attachment hattachment
    rw [attachments_eq] at hattachment
    obtain ⟨k, -, rfl⟩ := List.mem_map.1 hattachment
    refine hasPageNumber_number (fun format hformat => ?_) _
    obtain ⟨e, text, destination, hentry⟩ := hentries (entries.get k) (List.get_mem entries k)
    rw [hentry] at hformat
    exact Entry.placeholders_format hformat

/-- A cross reference with a target that has no end, which takes the page number in. -/
def unclosed : Entry := .ofTokens .standard (tokenize "fig|see\x7b") 0

theorem shows_number_once_unclosed :
    unclosed.format = some [.command "see" [[.pageNumber]]] ∧
      Fragment.placeholders [.command "see" [[.pageNumber]]] = 1 ∧
      ∀ attachment ∈ (ofEntries [unclosed]).attachments,
        Fragment.hasPageNumber attachment.2 = false := by
  have hformat : unclosed.format = some [.command "see" [[.pageNumber]]] := by
    cbv
  have hentries : ∀ entry ∈ [unclosed], ∃ e text destination,
      entry = Entry.ofTokens e (tokenize text) destination :=
    List.forall_mem_singleton.2 ⟨_, _, _, rfl⟩
  exact ⟨hformat, shows_number_once.1 .standard "fig|see\x7b" 0 _ hformat,
    shows_number_once.2 [unclosed] hentries⟩

end Merge

end BookIndex
