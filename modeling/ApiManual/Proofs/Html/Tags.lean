import ApiManual.Proofs.Html.Pieces

/-!
The tags of a text, found by reading it from left to right, and whether they are nested. A tag is
shown with the names of its attributes, and without their values.
-/
namespace ApiManual.Html

/-- Where a reader of tags is. Inside a tag it has read the first part of it. -/
inductive TagPlace where
  | outside
  | inside (read : List Char)
  | value (read : List Char)

/-- The tags of a text. What follows a quotation mark inside a tag is a value up to the next one,
and a tag that the text breaks off is one of its tags. -/
def tagsFrom : TagPlace → List Char → List (List Char)
  | .outside, [] => []
  | .inside read, [] => [read]
  | .value read, [] => [read]
  | .outside, c :: rest => if c = '<' then tagsFrom (.inside []) rest else tagsFrom .outside rest
  | .inside read, c :: rest =>
    if c = '>' then read :: tagsFrom .outside rest
    else if c = '"' then tagsFrom (.value (read ++ [c])) rest
    else tagsFrom (.inside (read ++ [c])) rest
  | .value read, c :: rest =>
    if c = '"' then tagsFrom (.inside (read ++ [c])) rest else tagsFrom (.value read) rest

def tagsOf (text : String) : List (List Char) := tagsFrom .outside text.toList

section Reading

variable {read text : List Char} (rest : List Char)

theorem tagsFrom_outside (h : Undelimited text) :
    tagsFrom .outside (text ++ rest) = tagsFrom .outside rest := by
  induction text with
  | nil => rfl
  | cons c text ih =>
    obtain ⟨hc, htext⟩ := undelimited_cons.mp h
    rw [List.cons_append, tagsFrom, if_neg (hc <| .inl ·), ih htext]

theorem tagsFrom_inside (h : Undelimited text) :
    tagsFrom (.inside read) (text ++ rest) = tagsFrom (.inside (read ++ text)) rest := by
  induction text generalizing read with
  | nil => rw [List.nil_append, List.append_nil]
  | cons c text ih =>
    obtain ⟨hc, htext⟩ := undelimited_cons.mp h
    rw [List.cons_append, tagsFrom, if_neg (hc <| .inr <| .inl ·), if_neg (hc <| .inr <| .inr ·),
      ih htext, List.append_assoc, List.singleton_append]

theorem tagsFrom_value (h : Undelimited text) :
    tagsFrom (.value read) (text ++ rest) = tagsFrom (.value read) rest := by
  induction text with
  | nil => rfl
  | cons c text ih =>
    obtain ⟨hc, htext⟩ := undelimited_cons.mp h
    rw [List.cons_append, tagsFrom, if_neg (hc <| .inr <| .inr ·), ih htext]

end Reading

def shownAttributes (attributes : List (String × String)) : List Char :=
  attributes.flatMap fun entry => ' ' :: entry.1.toList ++ ['=', '"', '"']

def shownTag (tag : String) (attributes : List (String × String)) : List Char :=
  tag.toList ++ shownAttributes attributes

mutual

def tags : Html → List (List Char)
  | element tag attributes children =>
    shownTag tag attributes :: (tagsAll children ++ ['/' :: tag.toList])
  | void tag attributes => [shownTag tag attributes]
  | text _ => []
  | entity _ => []

def tagsAll : List Html → List (List Char)
  | [] => []
  | node :: rest => node.tags ++ tagsAll rest

end

theorem undelimited_of_mem_names :
    ∀ name ∈ elementNames ++ voidNames ++ attributeNames ++ entityNames,
      Undelimited name.toList := by
  decide

section Trees

variable {write : String → List Char}

theorem tagsFrom_attributePieces (hwrite : Safe write) {entry : String × String}
    (hname : entry.1 ∈ attributeNames) (read rest : List Char) :
    tagsFrom (.inside read) (Piece.printAll write (attributePieces entry) ++ rest) =
      tagsFrom (.inside (read ++ (' ' :: entry.1.toList ++ ['=', '"', '"']))) rest := by
  have hmark : Undelimited (' ' :: entry.1.toList ++ ['=']) :=
    undelimited_append.mpr ⟨undelimited_cons.mpr
      ⟨by decide, undelimited_of_mem_names entry.1 (by simp [hname])⟩, by decide⟩
  have hprinted : Piece.printAll write (attributePieces entry) ++ rest =
      (' ' :: entry.1.toList ++ ['=']) ++ '"' :: (write entry.2 ++ '"' :: rest) := by
    simp [attributePieces, Piece.print]
  rw [hprinted, tagsFrom_inside _ hmark, tagsFrom, if_neg (by decide), if_pos rfl,
    tagsFrom_value _ (hwrite entry.2), tagsFrom, if_pos rfl]
  simp

theorem tagsFrom_attributes (hwrite : Safe write) {attributes : List (String × String)}
    (hnames : ∀ name ∈ attributes.map (·.1), name ∈ attributeNames) (read rest : List Char) :
    tagsFrom (.inside read) (Piece.printAll write (attributes.flatMap attributePieces) ++ rest) =
      tagsFrom (.inside (read ++ shownAttributes attributes)) rest := by
  induction attributes generalizing read with
  | nil => simp [shownAttributes]
  | cons entry attributes ih =>
    obtain ⟨hname, hnames⟩ := List.forall_mem_cons.mp hnames
    rw [List.flatMap_cons, Piece.printAll_append, List.append_assoc,
      tagsFrom_attributePieces hwrite hname, ih hnames, shownAttributes, shownAttributes,
      List.flatMap_cons, List.append_assoc]

theorem tagsFrom_openPieces (hwrite : Safe write) {tag : String}
    {attributes : List (String × String)} (htag : tag ∈ elementNames ++ voidNames)
    (hnames : ∀ name ∈ attributes.map (·.1), name ∈ attributeNames) (rest : List Char) :
    tagsFrom .outside (Piece.printAll write (openPieces tag attributes) ++ rest) =
      shownTag tag attributes :: tagsFrom .outside rest := by
  have hprinted : Piece.printAll write (openPieces tag attributes) ++ rest =
      '<' :: (tag.toList ++
        (Piece.printAll write (attributes.flatMap attributePieces) ++ '>' :: rest)) := by
    simp [openPieces, Piece.print]
  have hmark : Undelimited tag.toList :=
    undelimited_of_mem_names tag (List.mem_append_left _ (List.mem_append_left _ htag))
  rw [hprinted, tagsFrom, if_pos rfl, tagsFrom_inside _ hmark,
    tagsFrom_attributes hwrite hnames, tagsFrom, if_pos rfl, List.nil_append, shownTag]

theorem tagsFrom_closePiece {tag : String} (htag : tag ∈ elementNames) (rest : List Char) :
    tagsFrom .outside ((closePiece tag).print write ++ rest) =
      ('/' :: tag.toList) :: tagsFrom .outside rest := by
  have hprinted : (closePiece tag).print write ++ rest =
      '<' :: (('/' :: tag.toList) ++ '>' :: rest) := by
    simp [closePiece, Piece.print]
  have hmark : Undelimited ('/' :: tag.toList) :=
    undelimited_cons.mpr ⟨by decide, undelimited_of_mem_names tag (by simp [htag])⟩
  rw [hprinted, tagsFrom, if_pos rfl, tagsFrom_inside _ hmark, tagsFrom, if_pos rfl,
    List.nil_append]

mutual

/-- However contents are written, as long as they hold no delimiter, one who reads a printed tree
finds its tags and goes on with what follows. -/
theorem tagsFrom_pieces (hwrite : Safe write) (node : Html) (hnode : node.wellFormed = true)
    (rest : List Char) :
    tagsFrom .outside (Piece.printAll write node.pieces ++ rest) =
      node.tags ++ tagsFrom .outside rest := by
  match node with
  | element tag attributes children =>
    obtain ⟨htag, hnames, hchildren⟩ := wellFormed_element.mp hnode
    rw [pieces, Piece.printAll_append, Piece.printAll_append, List.append_assoc,
      tagsFrom_openPieces hwrite (List.mem_append_left _ htag) hnames, List.append_assoc,
      tagsFrom_piecesAll hwrite children hchildren, Piece.printAll_cons, Piece.printAll_nil,
      List.append_nil, tagsFrom_closePiece htag, tags]
    simp
  | void tag attributes =>
    obtain ⟨htag, hnames⟩ := wellFormed_void.mp hnode
    exact tagsFrom_openPieces hwrite (List.mem_append_right _ htag) hnames rest
  | text content =>
    rw [pieces, Piece.printAll_cons, Piece.printAll_nil, List.append_nil]
    exact tagsFrom_outside rest (hwrite content)
  | entity name =>
    have hname : Undelimited name.toList :=
      undelimited_of_mem_names name (by simp [List.contains_iff_mem.mp hnode])
    have hmark : Undelimited ("&" ++ name ++ ";").toList := by
      rw [String.toList_append, String.toList_append]
      exact undelimited_append.mpr ⟨undelimited_append.mpr ⟨by decide, hname⟩, by decide⟩
    rw [pieces, Piece.printAll_cons, Piece.printAll_nil, List.append_nil]
    exact tagsFrom_outside rest hmark

theorem tagsFrom_piecesAll (hwrite : Safe write) (nodes : List Html)
    (hnodes : wellFormedAll nodes = true) (rest : List Char) :
    tagsFrom .outside (Piece.printAll write (piecesAll nodes) ++ rest) =
      tagsAll nodes ++ tagsFrom .outside rest := by
  match nodes with
  | [] => rfl
  | node :: nodes =>
    obtain ⟨hnode, hrest⟩ := (Bool.and_eq_true _ _).to_iff.mp hnodes
    rw [piecesAll, Piece.printAll_append, List.append_assoc, tagsFrom_pieces hwrite node hnode,
      tagsFrom_piecesAll hwrite nodes hrest, tagsAll, List.append_assoc]

end

end Trees

/-- The names of tags that nothing closes. -/
def unclosed : List (List Char) := ["!DOCTYPE".toList, "meta".toList]

def tagName (tag : List Char) : List Char := tag.takeWhile (· ≠ ' ')

/-- Each closing tag has the name of the tag that was opened last and is not closed yet, and at the
end no tag is open. -/
def nestedFrom : List (List Char) → List (List Char) → Bool
  | opened, [] => opened.isEmpty
  | opened, tag :: rest =>
    if tag.head? = some '/' then
      opened.head? = some tag.tail && nestedFrom opened.tail rest
    else if unclosed.contains (tagName tag) then nestedFrom opened rest
    else nestedFrom (tagName tag :: opened) rest

def nested (tags : List (List Char)) : Bool := nestedFrom [] tags

section Nested

variable {tag : String} {attributes : List (String × String)} (opened rest : List (List Char))

theorem tagName_shownTag (htag : tag ∈ elementNames ++ voidNames) :
    tagName (shownTag tag attributes) = tag.toList := by
  have hnames : ∀ tag ∈ elementNames ++ voidNames, tag.toList.all (· ≠ ' ') = true := by decide
  rw [tagName, shownTag, List.takeWhile_append_of_pos (List.all_eq_true.mp (hnames tag htag))]
  cases attributes <;> simp [shownAttributes]

theorem head?_shownTag (htag : tag ∈ elementNames ++ voidNames) :
    (shownTag tag attributes).head? ≠ some '/' := by
  have hnames : ∀ tag ∈ elementNames ++ voidNames,
      tag.toList.head?.any (· ≠ '/') = true := by decide
  obtain ⟨c, hc, hne⟩ := (Option.any_eq_true _ _).mp (hnames tag htag)
  rw [shownTag, List.head?_append, hc]
  simpa using hne

theorem nestedFrom_openTag (htag : tag ∈ elementNames) :
    nestedFrom opened (shownTag tag attributes :: rest) =
      nestedFrom (tag.toList :: opened) rest := by
  have hclosed : ∀ tag ∈ elementNames, ¬ unclosed.contains tag.toList = true := by decide
  have hmem := List.mem_append_left voidNames htag
  rw [nestedFrom, if_neg (head?_shownTag hmem), tagName_shownTag hmem, if_neg (hclosed tag htag)]

theorem nestedFrom_voidTag (htag : tag ∈ voidNames) :
    nestedFrom opened (shownTag tag attributes :: rest) = nestedFrom opened rest := by
  have hunclosed : ∀ tag ∈ voidNames, unclosed.contains tag.toList = true := by decide
  have hmem := List.mem_append_right elementNames htag
  rw [nestedFrom, if_neg (head?_shownTag hmem), tagName_shownTag hmem, if_pos (hunclosed tag htag)]

theorem nestedFrom_closeTag (name : List Char) :
    nestedFrom (name :: opened) (('/' :: name) :: rest) = nestedFrom opened rest := by
  simp [nestedFrom]

end Nested

mutual

theorem nestedFrom_tags (node : Html) (hnode : node.wellFormed = true)
    (opened rest : List (List Char)) :
    nestedFrom opened (node.tags ++ rest) = nestedFrom opened rest := by
  match node with
  | element tag attributes children =>
    obtain ⟨htag, -, hchildren⟩ := wellFormed_element.mp hnode
    rw [tags, List.cons_append, List.append_assoc, nestedFrom_openTag _ _ htag,
      nestedFrom_tagsAll children hchildren, List.singleton_append, nestedFrom_closeTag]
  | void tag attributes => exact nestedFrom_voidTag opened rest (wellFormed_void.mp hnode).1
  | text _ => rfl
  | entity _ => rfl

theorem nestedFrom_tagsAll (nodes : List Html) (hnodes : wellFormedAll nodes = true)
    (opened rest : List (List Char)) :
    nestedFrom opened (tagsAll nodes ++ rest) = nestedFrom opened rest := by
  match nodes with
  | [] => rfl
  | node :: nodes =>
    obtain ⟨hnode, hrest⟩ := (Bool.and_eq_true _ _).to_iff.mp hnodes
    rw [tagsAll, List.append_assoc, nestedFrom_tags node hnode, nestedFrom_tagsAll nodes hrest]

end

end ApiManual.Html
