import BookIndex.Proofs.Fragment.Holes
import BookIndex.Proofs.Fragment.Merged

/-!
# Fragment.Plugged — the levels of a fragment with a text in the place of a placeholder

Of the levels of a fragment only the one around the hole gains or loses a text when a text is plugged in
the place of a placeholder (`atEveryLevel_plug`).  So a merged fragment stays merged exactly if the text
is not empty and the hole stands free: no text is next to it (`merged_plug_iff`).
-/

namespace BookIndex

mutual

/-- The nodes before and behind the hole in its fragment, where `outer` are those around the node. -/
def Inline.Hole.around (outer : Fragment × Fragment) : Inline.Hole → Fragment × Fragment
  | .here => outer
  | .command _ _ arg _ => arg.around
  | .group body => body.around

/-- The nodes before and behind the hole in the fragment that it stands in. -/
def Fragment.Hole.around : Fragment.Hole → Fragment × Fragment
  | ⟨before, node, after⟩ => node.around (before, after)

end

namespace Fragment.Hole

/-- The fragment that the hole stands in, with `new` in the hole. -/
def level (new : Inline) (hole : Fragment.Hole) : Fragment :=
  hole.around.1 ++ new :: hole.around.2

/-- No text stands next to the hole. -/
def Free (hole : Fragment.Hole) : Prop :=
  (∀ node ∈ hole.around.1.getLast?, node.isText = false) ∧
    ∀ node ∈ hole.around.2.head?, node.isText = false

end Fragment.Hole

mutual

theorem Inline.Hole.level_mem (new : Inline) (before after : Fragment) : ∀ node : Inline.Hole,
    (node.around (before, after)).1 ++ new :: (node.around (before, after)).2 =
        before ++ node.plug new :: after ∨
      (node.around (before, after)).1 ++ new :: (node.around (before, after)).2 ∈ (node.plug new).inner
  | .here => .inl rfl
  | .command name bs arg as => by
    refine .inr (Fragment.mem_innerArgs_iff.2 ⟨arg.plug new, ?_, arg.level_mem new⟩)
    exact List.mem_append_right _ List.mem_cons_self
  | .group body => .inr (body.level_mem new)

/-- The fragment that the hole stands in is one of the levels. -/
theorem Fragment.Hole.level_mem (new : Inline) : ∀ hole : Fragment.Hole,
    hole.level new ∈ (hole.plug new).levels
  | ⟨before, node, after⟩ => by
    rcases node.level_mem new before after with heq | hmem
    · exact List.mem_cons.2 (.inl heq)
    · refine List.mem_cons_of_mem _ (Fragment.mem_inner_iff.2 ⟨node.plug new, ?_, hmem⟩)
      exact List.mem_append_right _ List.mem_cons_self

end

/-- A node that is no text may take the place of any other. -/
def Fragment.Yielding (P : Fragment → Prop) : Prop :=
  ∀ (before after : Fragment) (a b : Inline), b.isText = false →
    P (before ++ a :: after) → P (before ++ b :: after)

mutual

theorem Inline.Hole.atEveryLevel_plug {P : Fragment → Prop} (hP : Fragment.Yielding P) (s : String)
    (before after : Fragment) : ∀ node : Inline.Hole,
    P (before ++ node.plug (.text s) :: after) ∧ (node.plug (.text s)).AtEveryLevel P ↔
      (P (before ++ node.plug .pageNumber :: after) ∧ (node.plug .pageNumber).AtEveryLevel P) ∧
        P ((node.around (before, after)).1 ++ .text s :: (node.around (before, after)).2)
  | .here => by
    simp only [Inline.Hole.plug, Inline.Hole.around, Inline.atEveryLevel_text,
      Inline.atEveryLevel_pageNumber, and_true]
    exact ⟨fun h => ⟨hP _ _ _ _ rfl h, h⟩, fun h => h.2⟩
  | .command name bs arg as => by
    have harg := Fragment.Hole.atEveryLevel_plug hP s arg
    have hlevel : P (before ++ .command name (bs ++ arg.plug (.text s) :: as) :: after) ↔
        P (before ++ .command name (bs ++ arg.plug .pageNumber :: as) :: after) :=
      ⟨hP _ _ _ _ rfl, hP _ _ _ _ rfl⟩
    simp only [Inline.Hole.plug, Inline.Hole.around, Inline.atEveryLevel_command,
      List.forall_mem_append, List.forall_mem_cons, hlevel, harg]
    tauto
  | .group body => by
    have hbody := Fragment.Hole.atEveryLevel_plug hP s body
    have hlevel : P (before ++ .group (body.plug (.text s)) :: after) ↔
        P (before ++ .group (body.plug .pageNumber) :: after) :=
      ⟨hP _ _ _ _ rfl, hP _ _ _ _ rfl⟩
    simp only [Inline.Hole.plug, Inline.Hole.around, Inline.atEveryLevel_group, hlevel, hbody]
    tauto

/-- A text in the place of a placeholder matters for the fragment that the hole stands in only. -/
theorem Fragment.Hole.atEveryLevel_plug {P : Fragment → Prop} (hP : Fragment.Yielding P) (s : String) :
    ∀ hole : Fragment.Hole, (hole.plug (.text s)).AtEveryLevel P ↔
      (hole.plug .pageNumber).AtEveryLevel P ∧ P (hole.level (.text s))
  | ⟨before, node, after⟩ => by
    have hnode := Inline.Hole.atEveryLevel_plug hP s before after node
    simp only [Fragment.Hole.plug, Fragment.Hole.level, Fragment.Hole.around,
      Fragment.atEveryLevel_iff, List.forall_mem_append, List.forall_mem_cons]
    tauto

end

namespace Fragment

/-! ### Texts that are not empty -/

theorem yielding_nonempty : Yielding (.text "" ∉ ·) := by
  intro before after a b hb h
  rw [List.mem_append, List.mem_cons, not_or, not_or] at h ⊢
  refine ⟨h.1, ?_, h.2.2⟩
  rintro rfl
  exact absurd hb.symm Bool.false_ne_true

theorem nonempty_plug {s : String} (hs : s ≠ "") {hole : Hole}
    (h : (hole.plug .pageNumber).AtEveryLevel (.text "" ∉ ·)) :
    (hole.plug (.text s)).AtEveryLevel (.text "" ∉ ·) := by
  refine (hole.atEveryLevel_plug yielding_nonempty s).2 ⟨h, ?_⟩
  have hlevel := h _ (hole.level_mem .pageNumber)
  rw [Hole.level, List.mem_append, List.mem_cons, not_or, not_or] at hlevel ⊢
  refine ⟨hlevel.1, ?_, hlevel.2.2⟩
  simpa using Ne.symm hs

/-! ### Merged fragments -/

theorem merged_append_cons_iff {before after : Fragment} {node : Inline} :
    Merged (before ++ node :: after) ↔ (Merged before ∧ Merged after) ∧ .text "" ≠ node ∧
      (∀ a ∈ before.getLast?, a.Apart node) ∧ ∀ b ∈ after.head?, node.Apart b := by
  have hmerged (f : Fragment) : Merged f ↔ .text "" ∉ f ∧ f.IsChain Inline.Apart :=
    ⟨fun h => ⟨h.nonempty, h.apart⟩, fun h => ⟨h.1, h.2⟩⟩
  simp only [hmerged, List.mem_append, List.mem_cons, not_or, List.isChain_append, List.isChain_cons,
    List.head?_cons, Option.mem_some_iff, forall_eq']
  tauto

theorem yielding_merged : Yielding Merged := by
  intro before after a b hb h
  obtain ⟨hparts, -, -, -⟩ := merged_append_cons_iff.1 h
  refine merged_append_cons_iff.2 ⟨hparts, ?_, fun _ _ _ => hb, fun _ _ htext => ?_⟩
  · rintro rfl
    exact absurd hb.symm Bool.false_ne_true
  · rw [hb] at htext
    exact absurd htext Bool.false_ne_true

/-- A text in the place of a placeholder leaves a merged fragment merged exactly if it is not empty and
stands between no texts. -/
theorem merged_plug_iff {s : String} {hole : Hole} :
    (hole.plug (.text s)).AtEveryLevel Merged ↔
      (hole.plug .pageNumber).AtEveryLevel Merged ∧ s ≠ "" ∧ hole.Free := by
  rw [hole.atEveryLevel_plug yielding_merged s]
  refine and_congr_right fun h => ?_
  obtain ⟨hparts, -⟩ := merged_append_cons_iff.1 (h _ (hole.level_mem .pageNumber))
  rw [Hole.level, merged_append_cons_iff]
  constructor
  · rintro ⟨-, hs, hbefore, hafter⟩
    refine ⟨fun hempty => hs (by rw [hempty]), ?_, fun node hnode => hafter node hnode rfl⟩
    intro node hnode
    exact (hbefore node hnode).symm rfl
  · rintro ⟨hs, hbefore, hafter⟩
    refine ⟨hparts, by simpa using Ne.symm hs, ?_, fun node hnode _ => hafter node hnode⟩
    intro node hnode htext
    rw [hbefore node hnode] at htext
    exact absurd htext Bool.false_ne_true

end Fragment

end BookIndex
