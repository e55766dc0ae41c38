import BookIndex.Proofs.Expander.Frames
import BookIndex.Proofs.Fragment.Plugged

/-!
# Fragment.Built — what operations on fragments give

Fragments are built by adding nodes at their end, by expanding tokens and by filling placeholders, and
nodes are built from fragments.  `Fragment.Built fills` is what can be built if only such fragments are
filled as `fills` allows.  No text in a built fragment is empty, at any level.  All levels are merged as
long as the placeholders that are filled stand free; filling a placeholder next to a text puts two texts
side by side (`built_merged`).
-/

namespace BookIndex

mutual

/-- What nodes can be had, where fragments are filled as `fills` allows. -/
inductive Inline.Built (fills : Fragment → Prop) : Inline → Prop
  | text (s : String) : Inline.Built fills (.text s)
  | pageNumber : Inline.Built fills .pageNumber
  | command (name : String) {args : List Fragment} :
    (∀ arg ∈ args, Fragment.Built fills arg) → Inline.Built fills (.command name args)
  | group {body : Fragment} : Fragment.Built fills body → Inline.Built fills (.group body)
  /-- A node that is taken from a fragment. -/
  | taken {f : Fragment} {node : Inline} :
    Fragment.Built fills f → node ∈ f → Inline.Built fills node

/-- What fragments can be had, where fragments are filled as `fills` allows. -/
inductive Fragment.Built (fills : Fragment → Prop) : Fragment → Prop
  | empty : Fragment.Built fills []
  | ofText (s : String) : Fragment.Built fills (.ofText s)
  | push {f : Fragment} {node : Inline} :
    Fragment.Built fills f → Inline.Built fills node → Fragment.Built fills (f.push node)
  | pushText {f : Fragment} (s : String) :
    Fragment.Built fills f → Fragment.Built fills (f.pushText s)
  | ofNodes {nodes : List Inline} :
    (∀ node ∈ nodes, Inline.Built fills node) → Fragment.Built fills (.ofNodes nodes)
  | expand (e : Expander) (ts : List Token) : Fragment.Built fills (e.expand ts)
  /-- A fragment without a placeholder stays as it is. -/
  | fill {f : Fragment} {number : String} :
    Fragment.Built fills f → fills f → number ≠ "" →
    Fragment.Built fills ((Fragment.fill? number f).getD f)
  /-- The body of a group that is at hand. -/
  | body {body : Fragment} : Inline.Built fills (.group body) → Fragment.Built fills body
  /-- An argument of a command that is at hand. -/
  | arg {name : String} {args : List Fragment} {arg : Fragment} :
    Inline.Built fills (.command name args) → arg ∈ args → Fragment.Built fills arg

end

/-! ### Adding nodes at the end -/

namespace Fragment

/-- Adding a node at the end keeps the property. -/
structure Growing (P : Fragment → Prop) : Prop where
  nil : P []
  push : ∀ {f : Fragment} (node : Inline), P f → P (f.push node)

theorem growing_nonempty : Growing (.text "" ∉ ·) where
  nil := List.not_mem_nil
  push node h := fun hmem =>
    nonempty_grow (fun hrev => h (List.mem_reverse.1 hrev)) node (List.mem_reverse.1 hmem)

theorem growing_merged : Growing Merged where
  nil := merged_nil
  push node h := (h.reverse.grow node).reverse

variable {P : Fragment → Prop} (hP : Growing P)

include hP

theorem atEveryLevel_nil : AtEveryLevel P [] :=
  atEveryLevel_iff.2 ⟨hP.nil, List.forall_mem_nil _⟩

theorem AtEveryLevel.push {f : Fragment} (hf : f.AtEveryLevel P) {node : Inline}
    (hnode : node.AtEveryLevel P) : (f.push node).AtEveryLevel P := by
  rw [atEveryLevel_iff] at hf ⊢
  refine ⟨hP.push node hf.1, fun new hnew => ?_⟩
  refine forall_mem_grow (fun _ => Inline.atEveryLevel_text _) ?_ hnode new (List.mem_reverse.1 hnew)
  exact fun old hold => hf.2 old (List.mem_reverse.1 hold)

theorem atEveryLevel_ofNodes {nodes : List Inline} (h : ∀ node ∈ nodes, node.AtEveryLevel P) :
    (ofNodes nodes).AtEveryLevel P := by
  induction nodes using List.reverseRecOn with
  | nil => exact atEveryLevel_nil hP
  | append_singleton nodes node ih =>
    rw [List.forall_mem_append, List.forall_mem_singleton] at h
    rw [ofNodes_concat]
    exact (ih h.1).push hP h.2

theorem atEveryLevel_ofText (s : String) : (ofText s).AtEveryLevel P :=
  atEveryLevel_ofNodes hP (List.forall_mem_singleton.2 (Inline.atEveryLevel_text s))

end Fragment

/-! ### Expansions -/

namespace Frame

variable {P : Fragment → Prop}

section Content

variable (hP : Fragment.Growing P) {f : Frame} (hf : P f.content.reverse)

include hP hf

theorem content_add (node : Inline) : P (f.add node).content.reverse := by
  simpa [Fragment.push, add] using hP.push node hf

theorem content_settle : P f.settle.content.reverse := by
  unfold settle
  split
  · exact hf
  · exact content_add hP hf _

theorem content_give (body : Fragment) : P (f.give body).content.reverse := by
  unfold give
  split
  · exact content_add hP hf _
  · split
    · exact hf
    · exact content_settle hP hf
    · exact hf

theorem content_put (e : Expander) (t : Token) : P (f.put e t).content.reverse := by
  cases t with
  | char c category => exact content_add hP hf _
  | control name =>
    rw [put]
    split
    · exact content_add hP hf _
    · unfold call
      split
      · exact hf
      · exact content_add hP hf _
      · exact hf

theorem content_read (e : Expander) (t : Token) : P (f.read e t).content.reverse := by
  unfold read
  split
  · split
    · exact hf
    · exact content_give hP hf _
  · exact content_put hP (content_settle hP hf) e t

end Content

variable (hP : Fragment.Growing P)

include hP

theorem atEveryLevel_alone (e : Expander) (t : Token) : (e.alone t).AtEveryLevel P := by
  cases t with
  | char c category =>
    have hne : String.singleton c ≠ "" := by simp
    rw [Expander.alone, ← Fragment.ofText_of_ne hne]
    exact Fragment.atEveryLevel_ofText hP _
  | control name =>
    rw [Expander.alone]
    cases hsymbol : e.symbol? name with
    | none =>
      have hcommand : (Inline.command name []).AtEveryLevel P :=
        Inline.atEveryLevel_command.2 (List.forall_mem_nil _)
      exact Fragment.atEveryLevel_ofNodes hP (List.forall_mem_singleton.2 hcommand)
    | some node =>
      refine Fragment.atEveryLevel_ofNodes hP (List.forall_mem_singleton.2 ?_)
      rcases Expander.symbol?_cases hsymbol with rfl | ⟨s, rfl⟩
      · exact Inline.atEveryLevel_pageNumber
      · exact Inline.atEveryLevel_text s

end Frame

/-- What expansion gives has every property that adding nodes at the end keeps, at every level. -/
theorem Fragment.Growing.expand {P : Fragment → Prop} (hP : Fragment.Growing P) (e : Expander)
    (ts : List Token) : (e.expand ts).AtEveryLevel P := by
  have hfollows := Inline.follows_atEveryLevel P
  have hkeeps := Frame.keeps_atEveryLevel hP.nil (Frame.content_settle hP) (Frame.content_give hP)
    (fun hf => Frame.content_read hP hf e) (Frame.atEveryLevel_alone hP e)
  refine hkeeps.expand ?_ ?_ (Fragment.atEveryLevel_ofText hP "\x7b") ts
  · exact fun hf => ⟨Frame.content_settle hP hf.1, hf.2.settle hfollows⟩
  · exact fun s hf => ⟨Frame.content_add hP (Frame.content_settle hP hf.1) _,
      (hf.2.settle hfollows).add hfollows (Inline.atEveryLevel_text s)⟩

/-! ### Filling -/

namespace Fragment

/-- The fragment has no placeholder, or the first one stands free. -/
def StandsFree (f : Fragment) : Prop :=
  hasPageNumber f = false ∨ ∃ hole : Hole, hole.First ∧ f = hole.plug .pageNumber ∧ hole.Free

variable {f : Fragment} {number : String}

theorem nonempty_fill (hnumber : number ≠ "") (hf : f.AtEveryLevel (.text "" ∉ ·)) :
    ((fill? number f).getD f).AtEveryLevel (.text "" ∉ ·) := by
  cases hhas : hasPageNumber f with
  | false => rwa [fill?_eq_none hhas, Option.getD_none]
  | true =>
    obtain ⟨hole, hfirst, rfl⟩ := exists_first_hole hhas
    rw [hole.fill?_plug number hfirst, Option.getD_some]
    exact nonempty_plug hnumber hf

/-- Filling leaves a fragment merged exactly if its first placeholder stands free. -/
theorem merged_fill_iff (hnumber : number ≠ "") :
    ((fill? number f).getD f).AtEveryLevel Merged ↔ f.AtEveryLevel Merged ∧ f.StandsFree := by
  constructor
  · intro h
    cases hhas : hasPageNumber f with
    | false =>
      rw [fill?_eq_none hhas, Option.getD_none] at h
      exact ⟨h, .inl hhas⟩
    | true =>
      obtain ⟨hole, hfirst, rfl⟩ := exists_first_hole hhas
      rw [hole.fill?_plug number hfirst, Option.getD_some, merged_plug_iff] at h
      exact ⟨h.1, .inr ⟨hole, hfirst, rfl, h.2.2⟩⟩
  · rintro ⟨hf, hnone | ⟨hole, hfirst, rfl, hfree⟩⟩
    · rwa [fill?_eq_none hnone, Option.getD_none]
    · rw [hole.fill?_plug number hfirst, Option.getD_some, merged_plug_iff]
      exact ⟨hf, hnumber, hfree⟩

end Fragment

/-! ### What is built -/

section Built

variable {P fills : Fragment → Prop}

mutual

theorem Inline.Built.atEveryLevel (hP : Fragment.Growing P)
    (hfill : ∀ (f : Fragment) (number : String), fills f → number ≠ "" → f.AtEveryLevel P →
      ((Fragment.fill? number f).getD f).AtEveryLevel P) {node : Inline} :
    Inline.Built fills node → node.AtEveryLevel P
  | .text s => Inline.atEveryLevel_text s
  | .pageNumber => Inline.atEveryLevel_pageNumber
  | .command _ hargs =>
    Inline.atEveryLevel_command.2 fun arg harg => (hargs arg harg).atEveryLevel hP hfill
  | .group hbody => Inline.atEveryLevel_group.2 (hbody.atEveryLevel hP hfill)
  | .taken hf hnode => (Fragment.atEveryLevel_iff.1 (hf.atEveryLevel hP hfill)).2 _ hnode

/-- What is built has at every level a property that adding nodes at the end and filling keep. -/
theorem Fragment.Built.atEveryLevel (hP : Fragment.Growing P)
    (hfill : ∀ (f : Fragment) (number : String), fills f → number ≠ "" → f.AtEveryLevel P →
      ((Fragment.fill? number f).getD f).AtEveryLevel P) {f : Fragment} :
    Fragment.Built fills f → f.AtEveryLevel P
  | .empty => Fragment.atEveryLevel_nil hP
  | .ofText s => Fragment.atEveryLevel_ofText hP s
  | .push hf hnode => (hf.atEveryLevel hP hfill).push hP (hnode.atEveryLevel hP hfill)
  | .pushText s hf => (hf.atEveryLevel hP hfill).push hP (Inline.atEveryLevel_text s)
  | .ofNodes hnodes =>
    Fragment.atEveryLevel_ofNodes hP fun node hnode => (hnodes node hnode).atEveryLevel hP hfill
  | .expand e ts => hP.expand e ts
  | .fill hf hfills hnumber => hfill _ _ hfills hnumber (hf.atEveryLevel hP hfill)
  | .body hnode => Inline.atEveryLevel_group.1 (hnode.atEveryLevel hP hfill)
  | .arg hnode harg => Inline.atEveryLevel_command.1 (hnode.atEveryLevel hP hfill) _ harg

end

end Built

namespace Fragment

/-- No text in a built fragment is empty, at any level.  As long as every placeholder that is filled stands
free, no two texts are neighbours either, so that fragments with the same content are equal.  Filling a
placeholder of a merged fragment keeps it merged in no other case. -/
theorem built_merged :
    (∀ f, Built (fun _ => True) f → f.AtEveryLevel (.text "" ∉ ·)) ∧
      (∀ f, Built StandsFree f → f.AtEveryLevel Merged) ∧
      (∀ f g, Built StandsFree f → Built StandsFree g → glyphs f = glyphs g → f = g) ∧
      ∀ (f : Fragment) (number : String), number ≠ "" →
        (((fill? number f).getD f).AtEveryLevel Merged ↔ f.AtEveryLevel Merged ∧ f.StandsFree) := by
  have hmerged : ∀ f, Built StandsFree f → f.AtEveryLevel Merged := by
    intro f hf
    refine hf.atEveryLevel growing_merged ?_
    exact fun g number hfree hnumber hg => (merged_fill_iff hnumber).2 ⟨hg, hfree⟩
  refine ⟨?_, hmerged, ?_, fun f number => merged_fill_iff⟩
  · intro f hf
    refine hf.atEveryLevel growing_nonempty ?_
    exact fun g number _ hnumber hg => nonempty_fill hnumber hg
  · exact fun f g hf hg => eq_of_glyphs (hmerged f hf) (hmerged g hg)

/-- A format with a placeholder as the only argument of a command. -/
def boldNumber : Fragment := ofNodes [.text "p. ", .command "textbf" [[.pageNumber]]]

/-- The text before the command is not next to the placeholder, which stands in the argument. -/
theorem built_merged_boldNumber : Built StandsFree boldNumber ∧ boldNumber.StandsFree ∧
    Built StandsFree ((fill? "7" boldNumber).getD boldNumber) ∧
    AtEveryLevel Merged [.text "p. ", .command "textbf" [[.text "7"]]] := by
  have hnumber : Built StandsFree [.pageNumber] := .ofNodes (List.forall_mem_singleton.2 .pageNumber)
  have hbuilt : Built StandsFree boldNumber := by
    refine .ofNodes (List.forall_mem_cons.2 ⟨.text _, List.forall_mem_singleton.2 ?_⟩)
    exact .command "textbf" (List.forall_mem_singleton.2 hnumber)
  have hfree : boldNumber.StandsFree := by
    refine .inr ⟨⟨[.text "p. "], .command "textbf" [] ⟨[], .here, []⟩ [], []⟩, ?_, rfl, ?_⟩
    · exact ⟨rfl, rfl, rfl, trivial⟩
    · simp [Hole.Free, Hole.around, Inline.Hole.around]
  have hfilled : Built StandsFree ((fill? "7" boldNumber).getD boldNumber) :=
    hbuilt.fill hfree (by decide)
  exact ⟨hbuilt, hfree, hfilled, built_merged.2.1 _ hfilled⟩

/-- A number in the place of a placeholder does not join the text before it. -/
theorem filled_beside_text : Built (fun _ => True) [.text "a", .text "1"] ∧
    ¬ AtEveryLevel Merged [.text "a", .text "1"] ∧ Built (fun _ => True) [.text "a1"] ∧
    glyphs [.text "a", .text "1"] = glyphs [.text "a1"] ∧
    ([.text "a", .text "1"] : Fragment) ≠ [.text "a1"] := by
  have hbuilt : Built (fun _ => True) (ofNodes [.text "a", .pageNumber]) :=
    .ofNodes (List.forall_mem_cons.2 ⟨.text "a", List.forall_mem_singleton.2 .pageNumber⟩)
  refine ⟨?_, ?_, ?_, ?_, ?_⟩
  · exact Built.fill hbuilt trivial (show "1" ≠ "" by decide)
  · intro h
    have hapart := (h _ List.mem_cons_self).apart
    exact absurd (List.isChain_pair.1 hapart rfl).symm Bool.false_ne_true
  · exact Built.ofText "a1"
  · rfl
  · simp

end Fragment

end BookIndex
