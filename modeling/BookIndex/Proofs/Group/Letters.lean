import BookIndex.Index
import BookIndex.Proofs.Collation.Romanized
import BookIndex.Proofs.Group.Members
import BookIndex.Proofs.Heading.Sorted
import Mathlib

/-!
# Group.Letters — letter groups stand in the order of their letters

Headings stand in the order of their weights, which come from the whole sort key in lower case, while the
label of a heading comes from the first letter in upper case.  Over a table of spellings that romanizes,
the first weight alone tells the label (`Label.ofSortKey_eq_ofRank`), and it is the small form of the
letter in the title (`Label.lowerInitial_title`).  So first weights rise from each group to the next
(`Group.pairwise_rank_lt`), and no letter comes back.
-/

namespace BookIndex

open Std

/-! ### Ranks -/

/-- The place of a sort key by its first weight; a sort key without weights comes first. -/
def Collation.rank (collation : Collation) (sortKey : String) : Nat :=
  match collation.weights sortKey with
  | [] => 0
  | w :: _ => w + 1

variable {collation : Collation}

/-- In the order of levels ranks never fall. -/
theorem Level.KeyLE.rank_le {a b : Level} (h : Level.KeyLE collation a b) :
    collation.rank a.sortKey ≤ collation.rank b.sortKey := by
  have hweights : (compare (collation.weights a.sortKey) (collation.weights b.sortKey)).isLE := by
    rcases Ordering.isLE_then_iff_or.1 h with hlt | ⟨heq, -⟩
    · exact Ordering.isLE_of_eq_lt hlt
    · exact Ordering.isLE_of_eq_eq heq
  unfold Collation.rank
  cases hb : collation.weights b.sortKey with
  | nil =>
    rw [hb, List.isLE_compare_nil_right] at hweights
    rw [hweights]
  | cons v vs =>
    cases ha : collation.weights a.sortKey with
    | nil => exact Nat.zero_le _
    | cons w ws =>
      rw [ha, hb] at hweights
      exact Nat.succ_le_succ (Nat.isLE_compare.1 (isLE_compare_head hweights))

/-- The headings of an index stand in the order of their ranks. -/
theorem Index.pairwise_rank_le (engine : Engine) (kind : IndexKind) (entries : List Entry) :
    (Index.ofEntries engine kind entries).forest.Pairwise fun h h' =>
      engine.collation.rank h.level.sortKey ≤ engine.collation.rank h'.level.sortKey := by
  have hinv := Merge.inOrder_of_pairwise (Entry.pairwise_sort engine.collation entries)
  have hrising : Rising engine.collation _ := (Heading.everywhere_iff.1 hinv.ascending).1
  have hkeys := List.isChain_iff_pairwise.1 (hrising.imp fun a b hab => hab.2)
  exact (List.pairwise_map.1 hkeys).imp fun h => h.rank_le

/-! ### Labels -/

/-- The code points of the first character in lower case. -/
def Text.lowerInitial (s : String) : List Nat :=
  ((s.toList.take 1).flatMap Text.lowerChar).map Char.toNat

namespace Label

/-- The label of a rank over a table of spellings that romanizes. -/
def ofRank (config : Config) : Nat → Label
  | 0 => symbols
  | w + 1 => if w < 128 then ofLetter config (String.ofList [(Char.ofNat w).toUpper]) else symbols

variable {config : Config}

/-- The title of an ASCII letter begins with it, unless it is that of the symbols. -/
theorem lowerInitial_ofLetter {c : Char} (hc : c.toNat < 128)
    (hnamed : ofLetter config (String.ofList [c.toUpper]) ≠ symbols) :
    Text.lowerInitial (ofLetter config (String.ofList [c.toUpper])).title = [c.toLower.toNat] := by
  unfold ofLetter at hnamed ⊢
  split_ifs at hnamed ⊢ with hgroup hunderscore
  · have hupper := Text.toNat_toUpper_lt hc
    simp [Text.lowerInitial, Text.lowerChar_of_ascii hupper]
  · have hchar : c.toUpper = '_' := by simpa using congrArg String.toList hunderscore
    rw [← Char.toLower_toUpper_eq_toLower, hchar]
    decide +kernel
  · exact absurd rfl hnamed

section Ascii

variable (halphabet : ∀ c ∈ config.alphabet.toList, c.toNat < 128)

include halphabet

/-- Letters beyond ASCII are in no alphabet of ASCII characters. -/
theorem ofLetter_of_beyond {letter : String} (hletter : ∀ d ∈ letter.toList, 128 ≤ d.toNat) :
    ofLetter config letter = symbols := by
  have hgroup : config.isGroupLetter letter = false := by
    unfold Config.isGroupLetter
    split
    · next c hc =>
      have hbeyond : 128 ≤ c.toNat := hletter c (by simp [hc])
      rw [Bool.eq_false_iff, Ne, List.contains_iff_mem]
      exact fun hmem => absurd (Text.toNat_lt_of_mem_upper halphabet hmem) (by omega)
    · rfl
  have hunderscore : letter ≠ "_" := by
    rintro rfl
    exact absurd (hletter '_' (by decide)) (by decide)
  rw [ofLetter, hgroup, if_neg Bool.false_ne_true, if_neg hunderscore]

variable {spell? : Char → Option String} (htable : Text.Romanizes spell?)

include htable

/-- A sort key has the label of an ASCII letter, with the small letter as its first weight, or that of the
symbols. -/
theorem ofSortKey_cases (sortKey : String) :
    (∃ c : Char, c.toNat < 128 ∧ (Collation.romanized spell?).rank sortKey = c.toLower.toNat + 1 ∧
        ofSortKey config (.romanized spell?) sortKey = ofLetter config (String.ofList [c.toUpper])) ∨
      ((Collation.romanized spell?).rank sortKey = 0 ∨ 128 < (Collation.romanized spell?).rank sortKey) ∧
        ofSortKey config (.romanized spell?) sortKey = symbols := by
  have hopening := htable.opening sortKey
  unfold ofSortKey Collation.rank
  generalize ((Collation.romanized spell?).transliterate sortKey).toList = letters at hopening ⊢
  generalize (Collation.romanized spell?).weights sortKey = weights at hopening ⊢
  cases hopening with
  | empty => exact .inr ⟨.inl rfl, rfl⟩
  | @ascii c letters weights hc =>
    refine .inl ⟨c, hc, rfl, ?_⟩
    dsimp only
    rw [Text.upperChar_of_ascii hc]
  | beyond hupper hw =>
    refine .inr ⟨.inr (Nat.lt_succ_of_le hw), ofLetter_of_beyond halphabet ?_⟩
    simpa using hupper

/-- The first weight of a sort key tells the label. -/
theorem ofSortKey_eq_ofRank (sortKey : String) :
    ofSortKey config (.romanized spell?) sortKey =
      ofRank config ((Collation.romanized spell?).rank sortKey) := by
  rcases ofSortKey_cases halphabet htable sortKey with ⟨c, hc, hrank, hlabel⟩ | ⟨hrank, hlabel⟩
  · rw [hlabel, hrank, ofRank, if_pos (Text.toNat_toLower_lt hc), Char.ofNat_toNat,
      Char.toUpper_toLower_eq_toUpper]
  · rw [hlabel]
    unfold ofRank
    split
    · rfl
    · rw [if_neg (by omega)]

/-- The first weight of a sort key is the letter of its title in lower case, symbols apart. -/
theorem lowerInitial_title {sortKey : String}
    (hnamed : ofSortKey config (.romanized spell?) sortKey ≠ symbols) :
    0 < (Collation.romanized spell?).rank sortKey ∧
      Text.lowerInitial (ofSortKey config (.romanized spell?) sortKey).title =
        [(Collation.romanized spell?).rank sortKey - 1] := by
  rcases ofSortKey_cases halphabet htable sortKey with ⟨c, hc, hrank, hlabel⟩ | ⟨-, hlabel⟩
  · rw [hlabel] at hnamed
    rw [hlabel, hrank]
    exact ⟨Nat.succ_pos _, lowerInitial_ofLetter hc hnamed⟩
  · exact absurd hlabel hnamed

end Ascii

end Label

/-! ### Groups -/

namespace Group

variable {config : Config} {forest : List Heading}

/-- The rank of a group is that of its first heading. -/
def rank (collation : Collation) (g : Group) : Nat :=
  match g.members with
  | [] => 0
  | h :: _ => collation.rank h.level.sortKey

theorem exists_rank_eq {g : Group} (hg : g ∈ ofForest config collation forest) :
    ∃ h ∈ g.members, g.rank collation = collation.rank h.level.sortKey := by
  unfold rank
  cases hmembers : g.members with
  | nil => exact absurd hmembers (members_ne_nil hg)
  | cons h rest => exact ⟨h, List.mem_cons_self .., rfl⟩

/-- If headings stand in the order of their ranks, and the rank tells the label, then each group has a
higher rank than those before it. -/
theorem pairwise_rank_lt
    (hforest : forest.Pairwise fun h h' =>
      collation.rank h.level.sortKey ≤ collation.rank h'.level.sortKey)
    (hlabel : ∀ s t, collation.rank s = collation.rank t →
      Label.ofSortKey config collation s = Label.ofSortKey config collation t) :
    (ofForest config collation forest).Pairwise fun g g' => g.rank collation < g'.rank collation := by
  have hgroups := hforest
  rw [← flatMap_members_ofForest config collation forest, List.pairwise_flatMap] at hgroups
  refine List.pairwise_map.1 (List.isChain_iff_pairwise.1 ((List.isChain_map _).2 ?_))
  refine List.isChain_iff_forall_rel_of_append_cons_cons.2 fun {g g' before after} heq => ?_
  have hdiffer : g.label ≠ g'.label :=
    List.isChain_iff_forall_rel_of_append_cons_cons.1 (isChain_label_ne config collation forest) heq
  have hg : g ∈ ofForest config collation forest := by simp [heq]
  have hg' : g' ∈ ofForest config collation forest := by simp [heq]
  obtain ⟨h, hh, hrank⟩ := exists_rank_eq hg
  obtain ⟨h', hh', hrank'⟩ := exists_rank_eq hg'
  have hle : collation.rank h.level.sortKey ≤ collation.rank h'.level.sortKey := by
    have hlater := hgroups.2
    rw [heq] at hlater
    have hnext := (List.pairwise_cons.1 (List.pairwise_append.1 hlater).2.1).1 g' (by simp)
    exact hnext h hh h' hh'
  have hne : collation.rank h.level.sortKey ≠ collation.rank h'.level.sortKey := fun hsame =>
    hdiffer (by rw [← ofSortKey_eq_label hg hh, ← ofSortKey_eq_label hg' hh', hlabel _ _ hsame])
  rw [hrank, hrank']
  exact Nat.lt_of_le_of_ne hle hne

section Ascii

variable (halphabet : ∀ c ∈ config.alphabet.toList, c.toNat < 128) {spell? : Char → Option String}
  (htable : Text.Romanizes spell?)

include halphabet htable

/-- A group that is not that of the symbols has the letter of its rank in its title. -/
theorem lowerInitial_title {g : Group} (hg : g ∈ ofForest config (.romanized spell?) forest)
    (hnamed : g.label.title ≠ "Symbols") :
    0 < g.rank (.romanized spell?) ∧
      Text.lowerInitial g.label.title = [g.rank (.romanized spell?) - 1] := by
  obtain ⟨h, hh, hrank⟩ := exists_rank_eq hg
  have hlabel := ofSortKey_eq_label hg hh
  have hsymbols : Label.ofSortKey config (.romanized spell?) h.level.sortKey ≠ .symbols := by
    intro heq
    rw [← hlabel, heq] at hnamed
    exact hnamed rfl
  rw [hrank, ← hlabel]
  exact Label.lowerInitial_title halphabet htable hsymbols

end Ascii

end Group

/-- Over any table of spellings that romanizes, and for any alphabet of ASCII characters: apart from the
symbols no two groups of an index have the same title, and the letters with which the titles begin, in
lower case, are in the order of their code points. -/
theorem Index.groups_in_letter_order {spell? : Char → Option String} (htable : Text.Romanizes spell?)
    {config : Config} (halphabet : ∀ c ∈ config.alphabet.toList, c.toNat < 128) (kind : IndexKind)
    (entries : List Entry) :
    let engine : Engine := ⟨config, .romanized spell?⟩
    let titles := ((Index.ofEntries engine kind entries).groups engine).map (·.label.title)
    let named := titles.filter (· ≠ "Symbols")
    named.Nodup ∧ ∃ codes : List Nat,
      named.map Text.lowerInitial = codes.map ([·]) ∧ codes.Pairwise (· < ·) := by
  intro engine titles named
  let groups := (Index.ofEntries engine kind entries).groups engine
  let letters := groups.filter (·.label.title ≠ "Symbols")
  have hnamed : named = letters.map (·.label.title) := List.filter_map
  have hranks : groups.Pairwise fun g g' => g.rank engine.collation < g'.rank engine.collation := by
    refine Group.pairwise_rank_lt (Index.pairwise_rank_le engine kind entries) fun s t hsame => ?_
    rw [Label.ofSortKey_eq_ofRank halphabet htable, Label.ofSortKey_eq_ofRank halphabet htable, hsame]
  have hinitial : ∀ g ∈ letters, 0 < g.rank engine.collation ∧
      Text.lowerInitial g.label.title = [g.rank engine.collation - 1] := by
    intro g hg
    obtain ⟨hmem, htitle⟩ := List.mem_filter.1 hg
    exact Group.lowerInitial_title halphabet htable hmem (of_decide_eq_true htitle)
  have hcodes : (letters.map fun g => g.rank engine.collation - 1).Pairwise (· < ·) := by
    refine List.pairwise_map.2 ((hranks.filter _).imp_of_mem fun {g g'} hg _ hlt => ?_)
    have hpos := (hinitial g hg).1
    omega
  have hmap : named.map Text.lowerInitial =
      (letters.map fun g => g.rank engine.collation - 1).map ([·]) := by
    rw [hnamed, List.map_map, List.map_map]
    exact List.map_congr_left fun g hg => (hinitial g hg).2
  refine ⟨?_, _, hmap, hcodes⟩
  have hdistinct : (named.map Text.lowerInitial).Nodup := by
    rw [hmap]
    exact hcodes.nodup.map List.singleton_injective
  exact hdistinct.of_map _

/-- Entries in no order: two letters that fall together without accents, an underscore and a sign. -/
def Index.lettered : List Entry :=
  ["ash", "~", "Æsir", "_x"].map fun key => ⟨[⟨[.text key], key⟩], none, .normal, 0⟩

theorem Index.titles_lettered :
    ((Index.ofEntries (.ofConfig .standard) .command lettered).groups (.ofConfig .standard)).map
      (·.label.title) = ["_ (Underscore)", "A", "Symbols"] := by
  have htext (key : String) : Fragment.textContent [.text key] = key := by
    simp [Fragment.textContent, Fragment.textChars, Inline.textChars]
  have hweights : ["ash", "~", "Æsir", "_x"].map Config.standard.collation.weights =
      [[97, 115, 104], [126], [97, 101, 115, 105, 114], [95, 120]] := by decide +kernel
  simp only [List.map_cons, List.map_nil, List.cons.injEq, and_true] at hweights
  have hforest : (Merge.ofEntries (Entry.sort Config.standard.collation lettered)).forest =
      ["_x", "Æsir", "ash", "~"].map fun key => ⟨⟨[.text key], key⟩, [⟨.normal, 0⟩], []⟩ := by
    simp only [Entry.sort, lettered, List.map_cons, List.map_nil, Entry.orderKey, LevelKey.ofLevel,
      htext, hweights]
    cbv
  have hlabels : ["_x", "Æsir", "ash", "~"].map (Label.ofSortKey .standard Config.standard.collation) =
      [.underscore, ⟨"A", "A"⟩, ⟨"A", "A"⟩, .symbols] := by decide +kernel
  simp only [List.map_cons, List.map_nil, List.cons.injEq, and_true] at hlabels
  simp only [groups, ofEntries, Engine.ofConfig, Group.ofForest, hforest, List.map_cons, List.map_nil,
    hlabels]
  cbv

theorem Index.groups_in_letter_order_standard :
    Text.Romanizes Text.spelling? ∧ (∀ c ∈ Config.standard.alphabet.toList, c.toNat < 128) ∧
      ((Index.ofEntries (.ofConfig .standard) .command lettered).groups (.ofConfig .standard)).map
        (·.label.title) = ["_ (Underscore)", "A", "Symbols"] ∧
      ["_ (Underscore)", "A"].Nodup ∧ ∃ codes : List Nat,
        ["_ (Underscore)", "A"].map Text.lowerInitial = codes.map ([·]) ∧ codes.Pairwise (· < ·) := by
  have halphabet : ∀ c ∈ Config.standard.alphabet.toList, c.toNat < 128 := by
    simpa using (by decide +kernel : Config.standard.alphabet.toList.all (·.toNat < 128) = true)
  have hengine : (⟨.standard, .romanized Text.spelling?⟩ : Engine) = .ofConfig .standard :=
    congrArg (Engine.mk .standard) Collation.ofKinds_eq_romanized.symm
  have hnamed : ["_ (Underscore)", "A", "Symbols"].filter (· ≠ "Symbols") = ["_ (Underscore)", "A"] := by
    decide
  have hordered := groups_in_letter_order Text.romanizes_spelling halphabet .command lettered
  dsimp only at hordered
  rw [hengine, titles_lettered, hnamed] at hordered
  exact ⟨Text.romanizes_spelling, halphabet, titles_lettered, hordered⟩

end BookIndex
