import BookIndex.Proofs.Fragment.Levels
import Mathlib.Data.List.Chain

/-!
# Fragment.Merged — fragments without empty texts and neighbouring texts

A fragment that is built at its end is merged: no text in it is empty, and no two texts are neighbours
(`Merged.grow`).  A merged fragment is determined by its glyphs, the content cut into characters, which do
not show how characters are cut into texts (`eq_of_glyphs`).
-/

namespace BookIndex

def Inline.isText : Inline → Bool
  | .text _ => true
  | _ => false

theorem Inline.exists_eq_text {node : Inline} (h : node.isText = true) : ∃ s, node = .text s := by
  cases node with
  | text s => exact ⟨s, rfl⟩
  | command | group | pageNumber => exact absurd h Bool.false_ne_true

/-- The nodes are not both texts. -/
def Inline.Apart (a b : Inline) : Prop := a.isText = true → b.isText = false

theorem Inline.Apart.symm {a b : Inline} (h : a.Apart b) : b.Apart a := by
  intro hb
  by_contra ha
  rw [Bool.not_eq_false] at ha
  rw [h ha] at hb
  exact Bool.false_ne_true hb

namespace Fragment

/-- No text is empty, and no two texts are neighbours. -/
structure Merged (f : Fragment) : Prop where
  nonempty : .text "" ∉ f
  apart : f.IsChain Inline.Apart

theorem merged_nil : Merged [] := ⟨List.not_mem_nil, List.isChain_nil⟩

theorem Merged.tail {node : Inline} {rest : Fragment} (h : Merged (node :: rest)) : Merged rest :=
  ⟨fun hmem => h.nonempty (List.mem_cons_of_mem _ hmem), h.apart.tail⟩

theorem Merged.reverse {f : Fragment} (h : Merged f) : Merged f.reverse := by
  refine ⟨fun hmem => h.nonempty (List.mem_reverse.1 hmem), ?_⟩
  rw [List.isChain_reverse]
  exact h.apart.imp fun a b hab => hab.symm

/-! ### Building at the end -/

theorem nonempty_growText {reversed : List Inline} (h : .text "" ∉ reversed) (s : String) :
    .text "" ∉ growText reversed s := by
  unfold growText
  split
  case isTrue => exact h
  case isFalse hs =>
    rw [String.isEmpty_iff] at hs
    split
    case h_1 t rest =>
      rw [List.mem_cons, not_or] at h ⊢
      refine ⟨?_, h.2⟩
      simpa using fun _ => hs
    case h_2 =>
      rw [List.mem_cons, not_or]
      exact ⟨by simpa using Ne.symm hs, h⟩

theorem nonempty_grow {reversed : List Inline} (h : .text "" ∉ reversed) (node : Inline) :
    .text "" ∉ grow reversed node := by
  cases node with
  | text s => exact nonempty_growText h s
  | command | group | pageNumber => simpa [grow] using h

theorem apart_growText {reversed : List Inline} (h : reversed.IsChain Inline.Apart) (s : String) :
    (growText reversed s).IsChain Inline.Apart := by
  unfold growText
  split
  case isTrue => exact h
  case isFalse hs =>
    split
    case h_1 t rest =>
      rw [List.isChain_cons] at h ⊢
      exact h
    case h_2 hlast =>
      refine List.isChain_cons.2 ⟨?_, h⟩
      intro node hnode _
      cases node with
      | text t =>
        obtain ⟨rest, hrest⟩ := List.head?_eq_some_iff.1 hnode
        exact absurd hrest (hlast t rest)
      | command | group | pageNumber => rfl

/-- Content that is kept with its last node first stays merged if a node is added. -/
theorem Merged.grow {reversed : List Inline} (h : Merged reversed) (node : Inline) :
    Merged (Fragment.grow reversed node) := by
  refine ⟨nonempty_grow h.nonempty node, ?_⟩
  cases node with
  | text s => exact apart_growText h.apart s
  | command | group | pageNumber =>
    refine List.isChain_cons.2 ⟨fun _ _ htext => ?_, h.apart⟩
    exact absurd htext Bool.false_ne_true

end Fragment

/-! ### Glyphs -/

/-- Content in which characters stand one by one. -/
inductive Glyph where
  | char (c : Char)
  | command (name : String) (args : List (List Glyph))
  | group (body : List Glyph)
  | pageNumber

def Glyph.isChar : Glyph → Bool
  | .char _ => true
  | _ => false

mutual

/-- The glyphs of a node: a text has its characters, any other node is one glyph. -/
def Inline.glyphs : Inline → List Glyph
  | .text s => s.toList.map .char
  | .command name args => [.command name (Fragment.glyphsArgs args)]
  | .group body => [.group (Fragment.glyphs body)]
  | .pageNumber => [.pageNumber]

/-- The glyphs of a fragment. -/
def Fragment.glyphs : Fragment → List Glyph
  | [] => []
  | node :: rest => Inline.glyphs node ++ Fragment.glyphs rest

/-- The glyphs of each argument. -/
def Fragment.glyphsArgs : List Fragment → List (List Glyph)
  | [] => []
  | arg :: rest => Fragment.glyphs arg :: Fragment.glyphsArgs rest

end

theorem Inline.exists_glyphs_eq {node : Inline} (h : node.isText = false) :
    ∃ glyph : Glyph, glyph.isChar = false ∧ node.glyphs = [glyph] := by
  cases node with
  | text s => exact absurd h.symm Bool.false_ne_true
  | command | group | pageNumber => exact ⟨_, rfl, rfl⟩

/-- A merged fragment begins with a text exactly if its glyphs begin with a character. -/
theorem Fragment.Merged.head?_glyphs {f : Fragment} (h : f.Merged) :
    (Fragment.glyphs f).head?.map Glyph.isChar = f.head?.map Inline.isText := by
  cases f with
  | nil => rfl
  | cons node rest =>
    cases hnode : node with
    | text s =>
      have hs : s ≠ "" := by
        rintro rfl
        exact h.nonempty (by simp [hnode])
      obtain ⟨c, cs, hcs⟩ := List.exists_cons_of_ne_nil (mt String.toList_eq_nil_iff.1 hs)
      simp [Fragment.glyphs, Inline.glyphs, hcs, Glyph.isChar, Inline.isText]
    | command | group | pageNumber => rfl

/-- In a merged fragment a text ends where the characters end. -/
theorem Fragment.Merged.takeWhile_glyphs {s : String} {rest : Fragment}
    (h : Fragment.Merged (.text s :: rest)) :
    (Fragment.glyphs (.text s :: rest)).takeWhile Glyph.isChar = s.toList.map .char := by
  have hchars : ∀ glyph ∈ s.toList.map Glyph.char, glyph.isChar = true := by
    rintro _ hmem
    obtain ⟨c, -, rfl⟩ := List.mem_map.1 hmem
    rfl
  have hrest : (Fragment.glyphs rest).takeWhile Glyph.isChar = [] := by
    have hhead := h.tail.head?_glyphs
    cases rest with
    | nil => rfl
    | cons node rest =>
      have hnode : node.isText = false := (List.isChain_cons.1 h.apart).1 node rfl rfl
      obtain ⟨glyph, hglyph, heq⟩ := Inline.exists_glyphs_eq hnode
      rw [Fragment.glyphs, heq, List.singleton_append]
      exact List.takeWhile_cons_of_neg (by rw [hglyph]; exact Bool.false_ne_true)
  rw [Fragment.glyphs, Inline.glyphs, List.takeWhile_append_of_pos hchars, hrest, List.append_nil]

theorem Fragment.Merged.text_inj {s t : String} {f g : Fragment}
    (hf : Fragment.Merged (.text s :: f)) (hg : Fragment.Merged (.text t :: g))
    (h : Fragment.glyphs (.text s :: f) = Fragment.glyphs (.text t :: g)) :
    s = t ∧ Fragment.glyphs f = Fragment.glyphs g := by
  have hchars : s.toList.map Glyph.char = t.toList.map Glyph.char := by
    rw [← hf.takeWhile_glyphs, h, hg.takeWhile_glyphs]
  have hst : s = t :=
    String.toList_injective (List.map_injective_iff.2 (fun _ _ => Glyph.char.inj) hchars)
  refine ⟨hst, ?_⟩
  rw [Fragment.glyphs, Fragment.glyphs, Inline.glyphs, Inline.glyphs, hst] at h
  exact List.append_cancel_left h

mutual

theorem Inline.eq_of_glyphs : ∀ {a b : Inline}, a.isText = false → b.isText = false →
    a.AtEveryLevel Fragment.Merged → b.AtEveryLevel Fragment.Merged → a.glyphs = b.glyphs → a = b
  | .text _, _, ha, _, _, _, _ => absurd ha.symm Bool.false_ne_true
  | .command m as, b, _, hb, has, hbs, h => by
    cases b with
    | text t => exact absurd hb.symm Bool.false_ne_true
    | command n bs =>
      rw [Inline.atEveryLevel_command] at has hbs
      simp only [Inline.glyphs, List.cons.injEq, Glyph.command.injEq, and_true] at h
      rw [h.1, Fragment.eq_of_glyphsArgs has hbs h.2]
    | group | pageNumber => simp [Inline.glyphs] at h
  | .group f, b, _, hb, hf, hg, h => by
    cases b with
    | text t => exact absurd hb.symm Bool.false_ne_true
    | group g =>
      rw [Inline.atEveryLevel_group] at hf hg
      simp only [Inline.glyphs, List.cons.injEq, Glyph.group.injEq, and_true] at h
      rw [Fragment.eq_of_glyphs hf hg h]
    | command | pageNumber => simp [Inline.glyphs] at h
  | .pageNumber, b, _, hb, _, _, h => by
    cases b with
    | text t => exact absurd hb.symm Bool.false_ne_true
    | pageNumber => rfl
    | command | group => simp [Inline.glyphs] at h

/-- Fragments that are merged at every level are equal if they have the same glyphs. -/
theorem Fragment.eq_of_glyphs : ∀ {f g : Fragment}, f.AtEveryLevel Fragment.Merged →
    g.AtEveryLevel Fragment.Merged → Fragment.glyphs f = Fragment.glyphs g → f = g
  | [], g, _, hg, h => by
    have hhead := (Fragment.atEveryLevel_iff.1 hg).1.head?_glyphs
    rw [← h] at hhead
    cases g with
    | nil => rfl
    | cons node g => simp [Fragment.glyphs] at hhead
  | a :: f, g, hf, hg, h => by
    obtain ⟨hmerged, hnodes⟩ := Fragment.atEveryLevel_iff.1 hf
    obtain ⟨hmerged', hnodes'⟩ := Fragment.atEveryLevel_iff.1 hg
    have hhead : (a :: f).head?.map Inline.isText = g.head?.map Inline.isText := by
      rw [← hmerged.head?_glyphs, h, hmerged'.head?_glyphs]
    cases g with
    | nil => simp at hhead
    | cons b g =>
      rw [List.forall_mem_cons] at hnodes hnodes'
      have hf' := Fragment.atEveryLevel_iff.2 ⟨hmerged.tail, hnodes.2⟩
      have hg' := Fragment.atEveryLevel_iff.2 ⟨hmerged'.tail, hnodes'.2⟩
      have hkind : a.isText = b.isText := by simpa using hhead
      cases ha : a.isText with
      | true =>
        obtain ⟨s, rfl⟩ := Inline.exists_eq_text ha
        obtain ⟨t, rfl⟩ := Inline.exists_eq_text (hkind ▸ ha)
        obtain ⟨rfl, hrest⟩ := hmerged.text_inj hmerged' h
        rw [Fragment.eq_of_glyphs hf' hg' hrest]
      | false =>
        have hb : b.isText = false := hkind ▸ ha
        obtain ⟨x, -, hx⟩ := Inline.exists_glyphs_eq ha
        obtain ⟨y, -, hy⟩ := Inline.exists_glyphs_eq hb
        rw [Fragment.glyphs, Fragment.glyphs, hx, hy] at h
        obtain ⟨rfl, hrest⟩ := List.cons.inj h
        rw [Inline.eq_of_glyphs ha hb hnodes.1 hnodes'.1 (hx.trans hy.symm),
          Fragment.eq_of_glyphs hf' hg' hrest]

theorem Fragment.eq_of_glyphsArgs : ∀ {as bs : List Fragment},
    (∀ arg ∈ as, arg.AtEveryLevel Fragment.Merged) → (∀ arg ∈ bs, arg.AtEveryLevel Fragment.Merged) →
    Fragment.glyphsArgs as = Fragment.glyphsArgs bs → as = bs
  | [], bs, _, _, h => by
    cases bs with
    | nil => rfl
    | cons arg bs => simp [Fragment.glyphsArgs] at h
  | arg :: as, bs, has, hbs, h => by
    cases bs with
    | nil => simp [Fragment.glyphsArgs] at h
    | cons arg' bs =>
      rw [List.forall_mem_cons] at has hbs
      rw [Fragment.glyphsArgs, Fragment.glyphsArgs, List.cons.injEq] at h
      rw [Fragment.eq_of_glyphs has.1 hbs.1 h.1, Fragment.eq_of_glyphsArgs has.2 hbs.2 h.2]

end

end BookIndex
