import BookIndex.Proofs.Document.Digest
import BookIndex.Proofs.Heading.Numbering
import BookIndex.Proofs.View.Nodes

/-!
# View.Pages — what a view shows of the entries of a document

The pages of the view of a text are those of its entries in index order, each with the place that the
entry points at (`pages_ofText`).  A place has its anchor and its address from the document and, since
no two entries share one, a single fragment from the index, which is the one that the page shows.  So
no entry is lost, none is shown twice, and each page without a format shows its place among the pages
of its heading.
-/

namespace BookIndex

/-- A text by itself is read as it stands. -/
theorem Fragment.reading_text (s : String) : Fragment.reading [.text s] = s := by
  simp [Fragment.reading, Fragment.readingChars, Inline.readingChars]

namespace View

section Pages

variable [Text.Romanizer] (config : Config) (text : String)

/-- The view shows the pages of the entries in index order. -/
theorem pages_ofText : (ofText config text).pages = (Index.entriesOfText config text).map fun entry =>
    PageView.ofPage (Index.placesOfText config text) entry.page := by
  have hinv := Merge.inOrder_of_pairwise (Index.pairwise_entriesOfText config text)
  have hmentions := hinv.mentionsAll_eq fun entry hentry => Index.levels_ne_nil config text hentry
  have hpages := Heading.map_snd_mentionsAll [] 0 (Index.ofText config text).forest
  rw [Index.forest_ofText, hmentions, List.map_map] at hpages
  rw [ofText_eq, pages_ofIndex, Index.forest_ofText, ← hpages, List.map_map]
  rfl

/-- The place of an entry has its anchor and its address, and the number of the entry alone. -/
theorem place_page (k : Fin (Index.entriesOfText config text).length) : ∃ label,
    ((Index.entriesOfText config text).get k).page.place (Index.placesOfText config text) =
      ⟨Occurrence.anchor (((Index.entriesOfText config text).get k).destination + 1), label,
        some ("#" ++ Occurrence.anchor (((Index.entriesOfText config text).get k).destination + 1)),
        [Merge.number ((Index.entriesOfText config text).get k)
          ((Merge.slot (Index.entriesOfText config text) k).2 + 1)]⟩ := by
  have hentry : ((Index.entriesOfText config text).get k) ∈ (Document.ofText .standard text).entries :=
    (Index.perm_entriesOfText config text).mem_iff.1 (List.getElem_mem k.2)
  obtain ⟨label, hplace⟩ := Document.place_destination _ _ hentry
  have hattached := Merge.place_attachAll_of_nodup (Document.ofText .standard text).places
    (Index.nodup_destinations config text) k (Document.destination_lt _ _ hentry)
  refine ⟨label, hattached.trans ?_⟩
  rw [Document.ofText, hplace]
  rfl

theorem id_ofPage {entry : Entry} (hentry : entry ∈ Index.entriesOfText config text) :
    (PageView.ofPage (Index.placesOfText config text) entry.page).id =
      Occurrence.anchor (entry.destination + 1) := by
  obtain ⟨k, hk, rfl⟩ := List.getElem_of_mem hentry
  obtain ⟨label, hplace⟩ := place_page config text ⟨k, hk⟩
  exact congrArg Destination.id hplace

theorem url_ofPage {entry : Entry} (hentry : entry ∈ Index.entriesOfText config text) :
    (PageView.ofPage (Index.placesOfText config text) entry.page).url =
      if entry.kind = .normal then some ("#" ++ Occurrence.anchor (entry.destination + 1))
      else none := by
  obtain ⟨k, hk, rfl⟩ := List.getElem_of_mem hentry
  obtain ⟨label, hplace⟩ := place_page config text ⟨k, hk⟩
  have hurl := congrArg Destination.url hplace
  simp only [List.get_eq_getElem] at hurl
  rw [PageView.ofPage, PageRef.url, hurl]
  cases hkind : (Index.entriesOfText config text)[k].kind <;>
    simp [Entry.page, hkind, EntryKind.isCrossReference]

/-- The page number of an entry without a format is its place among the pages of its heading. -/
theorem text_ofPage {k : Fin (Index.entriesOfText config text).length}
    (hformat : ((Index.entriesOfText config text).get k).format = none) :
    (PageView.ofPage (Index.placesOfText config text) ((Index.entriesOfText config text).get k).page).text =
      toString ((Merge.slot (Index.entriesOfText config text) k).2 + 1) := by
  obtain ⟨label, hplace⟩ := place_page config text k
  rw [PageView.ofPage, hplace, Merge.number_of_format_eq_none hformat]
  exact Fragment.reading_text _

/-- The pages of a node are those of a heading, each of which came with an entry. -/
theorem exists_entry_of_mem_nodes {node : HeadingView} (hnode : node ∈ (ofText config text).nodes)
    {j : Nat} {page : PageView} (hpage : node.pages[j]? = some page) :
    ∃ k : Fin (Index.entriesOfText config text).length,
      (Merge.slot (Index.entriesOfText config text) k).2 = j ∧
        page = .ofPage (Index.placesOfText config text) ((Index.entriesOfText config text).get k).page := by
  rw [ofText_eq, nodes_ofIndex] at hnode
  obtain ⟨row, hrow, rfl⟩ := List.mem_map.1 hnode
  rw [HeadingView.pages_ofHeading, List.getElem?_map] at hpage
  obtain ⟨ref, href, rfl⟩ := Option.map_eq_some_iff.1 hpage
  obtain ⟨i, rest, hg, -⟩ := Heading.mem_rowsAll_children_iff.1 hrow
  rw [← Heading.pagesAt_of_at? hg] at href
  obtain ⟨hlt, -⟩ := List.getElem?_eq_some_iff.1 href
  obtain ⟨k, hk⟩ := Merge.exists_slot_of_lt hlt
  have hentry := Merge.getElem?_pagesAt_slot k
  rw [hk] at hentry
  obtain rfl := Option.some.inj (href.symm.trans hentry)
  exact ⟨k, congrArg Prod.snd hk, rfl⟩

/-- The anchors that a view shows are those of the entries, each exactly once. -/
theorem perm_id_pages : ((ofText config text).pages.map (·.id)).Perm
    ((List.range (ofText config text).entries).map fun i => Occurrence.anchor (i + 1)) := by
  have hperm := Index.perm_entriesOfText config text
  have hids : (ofText config text).pages.map (·.id) =
      ((Index.entriesOfText config text).map (·.destination)).map
        fun i => Occurrence.anchor (i + 1) := by
    rw [pages_ofText, List.map_map, List.map_map]
    exact List.map_congr_left fun entry hentry => id_ofPage config text hentry
  have hcount : (ofText config text).entries = (Document.ofText .standard text).entries.length :=
    hperm.length_eq
  have hrange : List.range (Document.ofText .standard text).entries.length =
      (Document.ofText .standard text).entries.map (·.destination) :=
    (Document.map_destination_entries _ _).symm
  rw [hids, hcount, hrange]
  exact (hperm.map _).map _

/-- An entry is told by the anchor of its page. -/
theorem eq_of_id_ofPage {k : Fin (Index.entriesOfText config text).length} {i : Nat} {entry : Entry}
    (hentry : (Document.ofText .standard text).entries[i]? = some entry)
    (hid : (PageView.ofPage (Index.placesOfText config text)
      ((Index.entriesOfText config text).get k).page).id = Occurrence.anchor (i + 1)) :
    ((Index.entriesOfText config text).get k) = entry := by
  have hmem : ((Index.entriesOfText config text).get k) ∈ Index.entriesOfText config text :=
    List.getElem_mem k.2
  rw [id_ofPage config text hmem] at hid
  have hi := Nat.succ_injective (Occurrence.anchor_injective hid)
  have hsame := Document.getElem?_destination _ _
    ((Index.perm_entriesOfText config text).mem_iff.1 hmem)
  rw [hi] at hsame
  exact Option.some.inj (hsame.symm.trans hentry)

/-- The pages that the view of a text shows, over all groups, columns and depths, have the anchors of
its entries, each exactly once.  A page has the address of its anchor unless it is a cross reference,
and the page of an entry without a format shows the place that it has among the pages of its node. -/
theorem shows_every_entry :
    ((ofText config text).pages.map (·.id)).Perm
        ((List.range (ofText config text).entries).map fun i => "idx-" ++ toString (i + 1)) ∧
      (∀ page ∈ (ofText config text).pages,
        page.url = if page.kind = .normal then some ("#" ++ page.id) else none) ∧
      ∀ node ∈ (ofText config text).nodes, ∀ j page, node.pages[j]? = some page →
        ∀ i entry, (Document.ofText .standard text).entries[i]? = some entry →
          page.id = "idx-" ++ toString (i + 1) → entry.format = none → page.text = toString (j + 1) := by
  refine ⟨perm_id_pages config text, ?_, ?_⟩
  · intro page hpage
    rw [pages_ofText] at hpage
    obtain ⟨entry, hentry, rfl⟩ := List.mem_map.1 hpage
    rw [url_ofPage config text hentry, id_ofPage config text hentry]
    rfl
  · intro node hnode j page hpage i entry hentry hid hformat
    obtain ⟨k, rfl, rfl⟩ := exists_entry_of_mem_nodes config text hnode hpage
    obtain rfl := eq_of_id_ofPage config text hentry hid
    exact text_ofPage config text hformat

end Pages

example : (ofText .standard
    "\\index\x7bb\x7d\\index\x7ba|see\x7bb\x7d\x7d\\index\x7bb!c\x7d\\index\x7bb\x7d").pages.map
      (fun page => (page.id, page.url, page.text)) =
    [("idx-2", none, "see b"), ("idx-1", some "#idx-1", "1"), ("idx-4", some "#idx-4", "2"),
      ("idx-3", some "#idx-3", "1")] := by
  cbv

end View

end BookIndex
