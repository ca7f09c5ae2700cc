import Datapack.Proofs.Continuation

namespace Datapack.Proofs.Outlines

open LastBlock Feeding Continuation

def opened? (line : Text) : Option Text :=
  match Statement.ofText line with
  | .header name => some name
  | _ => none

structure Chunk where
  name : Text
  header : Text
  rest : List Text
  opens : opened? header = some name
  plain : ∀ line ∈ rest, opened? line = none
  deriving DecidableEq

structure Outline where
  preamble : List Text
  chunks : List Chunk
  plain : ∀ line ∈ preamble, opened? line = none
  deriving DecidableEq

/-- The same chunks in another order, those of one function in the same order. -/
structure Reordered (chunks chunks' : List Chunk) : Prop where
  perm : chunks.Perm chunks'
  order : ∀ name, chunks.filter (fun chunk => chunk.name = name) =
    chunks'.filter (fun chunk => chunk.name = name)

variable {name : Text} {chunk : Chunk} {chunks chunks' : List Chunk} {outline : Outline}

def Chunk.lines (chunk : Chunk) : List Text := chunk.header :: chunk.rest

namespace Outline

def lines (outline : Outline) : List Text := outline.preamble ++ outline.chunks.flatMap Chunk.lines

/-- A header takes the lines before the first chunk into a chunk of its own. -/
def cons (line : Text) (outline : Outline) : Outline :=
  match h : opened? line with
  | none => ⟨line :: outline.preamble, outline.chunks, List.forall_mem_cons.2 ⟨h, outline.plain⟩⟩
  | some name => ⟨[], ⟨name, line, outline.preamble, h, outline.plain⟩ :: outline.chunks, by simp⟩

def ofLines (lines : List Text) : Outline := lines.foldr cons ⟨[], [], by simp⟩

theorem lines_cons (line : Text) (outline : Outline) :
    (cons line outline).lines = line :: outline.lines := by
  rw [cons]
  split <;> simp [Outline.lines, Chunk.lines]

/-- Nothing is lost when a script is cut. -/
theorem lines_ofLines (lines : List Text) : (ofLines lines).lines = lines := by
  induction lines with
  | nil => rfl
  | cons line lines ih =>
      have hcons : ofLines (line :: lines) = cons line (ofLines lines) := rfl
      rw [hcons, lines_cons, ih]

theorem cons_plain {line : Text} (h : opened? line = none) (outline : Outline) :
    cons line outline = ⟨line :: outline.preamble, outline.chunks,
      List.forall_mem_cons.2 ⟨h, outline.plain⟩⟩ := by
  rw [cons]
  split
  · rfl
  · rename_i hname
    cases h.symm.trans hname

theorem cons_header (chunk : Chunk) (chunks : List Chunk) :
    cons chunk.header ⟨chunk.rest, chunks, chunk.plain⟩ = ⟨[], chunk :: chunks, by simp⟩ := by
  rw [cons]
  split
  · rename_i hnone
    cases hnone.symm.trans chunk.opens
  · rename_i name hname
    obtain rfl : name = chunk.name := Option.some.inj (hname.symm.trans chunk.opens)
    rfl

theorem foldr_plain {lines : List Text} (h : ∀ line ∈ lines, opened? line = none)
    (outline : Outline) : lines.foldr cons outline =
      ⟨lines ++ outline.preamble, outline.chunks, List.forall_mem_append.2 ⟨h, outline.plain⟩⟩ := by
  induction lines with
  | nil => rfl
  | cons line lines ih =>
      obtain ⟨hline, hlines⟩ := List.forall_mem_cons.1 h
      rw [List.foldr_cons, ih hlines, cons_plain hline]
      rfl

theorem ofLines_chunks (chunks : List Chunk) :
    ofLines (chunks.flatMap Chunk.lines) = ⟨[], chunks, by simp⟩ := by
  induction chunks with
  | nil => rfl
  | cons chunk chunks ih =>
      have hcut : ofLines ((chunk :: chunks).flatMap Chunk.lines) =
          cons chunk.header (chunk.rest.foldr cons (ofLines (chunks.flatMap Chunk.lines))) := by
        simp [ofLines, Chunk.lines]
      rw [hcut, ih, foldr_plain chunk.plain]
      simp only [List.append_nil, cons_header]

/-- There is only one way to cut a script. -/
theorem ofLines_lines (outline : Outline) : ofLines outline.lines = outline := by
  obtain ⟨preamble, chunks, hplain⟩ := outline
  have hcut : ofLines (lines ⟨preamble, chunks, hplain⟩) =
      preamble.foldr cons (ofLines (chunks.flatMap Chunk.lines)) := by
    simp [ofLines, lines]
  rw [hcut, ofLines_chunks, foldr_plain hplain]
  simp only [List.append_nil]

end Outline

theorem reordered_swap {other : Chunk} (hne : chunk.name ≠ other.name) (chunks : List Chunk) :
    Reordered (chunk :: other :: chunks) (other :: chunk :: chunks) where
  perm := .swap other chunk chunks
  order := fun name => by
    by_cases hname : chunk.name = name
    · have hother : other.name ≠ name := fun he => hne (hname.trans he.symm)
      simp [hname, hother]
    · simp [List.filter_cons, hname]

theorem opened?_eq_some_iff {line : Text} :
    opened? line = some name ↔ Statement.ofText line = .header name := by
  rw [opened?]
  split
  · rename_i other h
    simp [h]
  · rename_i h
    simpa using h name

def tableOf (chunks : List Chunk) : FunctionTable :=
  .ofStatements ((chunks.flatMap Chunk.lines).map Statement.ofText)

theorem startsAfresh_chunks (chunks : List Chunk) :
    StartsAfresh ((chunks.flatMap Chunk.lines).map Statement.ofText) := by
  cases chunks with
  | nil => decide
  | cons chunk chunks =>
      have hheader : Statement.ofText chunk.header = .header chunk.name :=
        opened?_eq_some_iff.1 chunk.opens
      simp [StartsAfresh, Chunk.lines, hheader, isBoundary]

theorem get?_tableOf_cons (chunk : Chunk) (chunks : List Chunk) (name : Text) :
    (tableOf (chunk :: chunks)).get? name =
      ((tableOf chunks).get? name).or ((tableOf [chunk]).get? name) := by
  have hlines : tableOf (chunk :: chunks) = .ofStatements (chunk.lines.map Statement.ofText ++
      (chunks.flatMap Chunk.lines).map Statement.ofText) := by simp [tableOf]
  have hchunk : tableOf [chunk] = .ofStatements (chunk.lines.map Statement.ofText) := by
    simp [tableOf]
  rw [hlines, hchunk]
  exact get?_append (.inr (startsAfresh_chunks chunks)) name

theorem get?_of_unopened {lines : List Text} (h : ∀ line ∈ lines, opened? line ≠ some name) :
    (FunctionTable.ofStatements (lines.map Statement.ofText)).get? name = none := by
  apply get?_of_not_mem
  intro hm
  obtain ⟨line, hline, hheader⟩ := List.mem_map.1 hm
  exact h line hline (opened?_eq_some_iff.2 hheader)

theorem get?_tableOf_other (hne : chunk.name ≠ name) : (tableOf [chunk]).get? name = none := by
  apply get?_of_unopened
  intro line hline hopened
  simp only [List.flatMap_singleton, Chunk.lines, List.mem_cons] at hline
  rcases hline with rfl | hline
  · exact hne (Option.some.inj (chunk.opens.symm.trans hopened))
  · cases (chunk.plain line hline).symm.trans hopened

theorem get?_tableOf_filter (chunks : List Chunk) (name : Text) :
    (tableOf chunks).get? name =
      (tableOf (chunks.filter (fun chunk => chunk.name = name))).get? name := by
  induction chunks with
  | nil => rfl
  | cons chunk chunks ih =>
      by_cases hname : chunk.name = name
      · rw [List.filter_cons_of_pos (by simpa using hname), get?_tableOf_cons, ih,
          ← get?_tableOf_cons]
      · rw [List.filter_cons_of_neg (by simpa using hname), get?_tableOf_cons, ih,
          get?_tableOf_other hname, Option.or_none]

theorem ofLines_outline {source : List Line} (h : source.map Line.trimmed = outline.lines) :
    FunctionTable.ofLines source = tableOf outline.chunks := by
  have hstatements : source.map (fun line => Statement.ofText line.trimmed) =
      outline.preamble.map Statement.ofText ++
        (outline.chunks.flatMap Chunk.lines).map Statement.ofText := by
    rw [← List.map_append, ← Outline.lines, ← h, List.map_map]
    rfl
  ext1 name
  have hpreamble : (FunctionTable.ofStatements (outline.preamble.map Statement.ofText)).get? name =
      none := by
    apply get?_of_unopened
    intro line hline hopened
    cases (outline.plain line hline).symm.trans hopened
  rw [FunctionTable.ofLines, hstatements, get?_append (.inr (startsAfresh_chunks _)), hpreamble,
    Option.or_none]
  rfl

theorem tableOf_reordered (h : Reordered chunks chunks') : tableOf chunks = tableOf chunks' := by
  ext1 name
  rw [get?_tableOf_filter, h.order name, ← get?_tableOf_filter]

/-- A script is its preamble and its chunks. With another preamble without headers
and the chunks in another order that keeps those of one function in theirs, it
becomes the same pack. -/
theorem reordered_chunks_keep_pack (source lines : List Line) (outline : Outline)
    (hchunks : Reordered (Outline.ofLines (source.map Line.trimmed)).chunks outline.chunks)
    (hlines : lines.map Line.trimmed = outline.lines) :
    (Outline.ofLines (source.map Line.trimmed)).lines = source.map Line.trimmed ∧
      Outline.ofLines (lines.map Line.trimmed) = outline ∧
      Pack.ofLines lines = Pack.ofLines source := by
  have hcut : (Outline.ofLines (source.map Line.trimmed)).lines = source.map Line.trimmed :=
    Outline.lines_ofLines _
  refine ⟨hcut, by rw [hlines, Outline.ofLines_lines], ?_⟩
  rw [Pack.ofLines, Pack.ofLines, ofLines_outline hlines, ofLines_outline hcut.symm,
    tableOf_reordered hchunks]

/-- A name with two chunks, lines that stay without effect where their chunk goes,
and a function that moves across another one. -/
theorem swapped_functions_keep_pack :
    let first : Chunk := ⟨"a".toList, "function a(=> void)".toList,
      ["say \"1\"".toList, "end".toList, "say \"lost\"".toList], by decide, by decide⟩
    let other : Chunk := ⟨"b".toList, "function b(=> void)".toList, ["say \"2\"".toList],
      by decide, by decide⟩
    let last : Chunk := ⟨"a".toList, "function a(=> void)".toList, ["say \"3\"".toList],
      by decide, by decide⟩
    let outline : Outline := ⟨["end".toList], [other, first, last], by decide⟩
    let source := Source.lines ("# rules\nfunction a(=> void)\nsay \"1\"\nend\nsay \"lost\"\n" ++
      "function b(=> void)\nsay \"2\"\nfunction a(=> void)\nsay \"3\"").toList
    let lines := Source.lines ("end\nfunction b(=> void)\nsay \"2\"\nfunction a(=> void)\n" ++
      "say \"1\"\nend\nsay \"lost\"\nfunction a(=> void)\nsay \"3\"").toList
    Reordered (Outline.ofLines (source.map Line.trimmed)).chunks outline.chunks ∧
      lines.map Line.trimmed = outline.lines ∧ Pack.ofLines lines = Pack.ofLines source := by
  intro first other last outline source lines
  let before : Outline := ⟨["# rules".toList], [first, other, last], by decide⟩
  have hsource : source.map Line.trimmed = before.lines := by decide +kernel
  have hlines : lines.map Line.trimmed = outline.lines := by decide +kernel
  have hchunks : Reordered (Outline.ofLines (source.map Line.trimmed)).chunks outline.chunks := by
    rw [hsource, Outline.ofLines_lines]
    exact reordered_swap (by decide) [last]
  obtain ⟨-, -, hpack⟩ := reordered_chunks_keep_pack source lines outline hchunks hlines
  exact ⟨hchunks, hlines, hpack⟩

end Datapack.Proofs.Outlines
