import Datapack.Blocks
import Mathlib.Tactic.Tauto

namespace Datapack.Proofs.LastBlock

variable {name : Text} {b : Blocks} {s : Statement} {statements body : List Statement}

def isBoundary : Statement → Bool
  | .header _ | .close => true
  | _ => false

def commandsOf (body : List Statement) : List Text := body.filterMap Statement.command?

/-- A header for a name, what follows it up to the next boundary, and a rest in
which no header has this name. -/
def IsLastBlock (name : Text) (statements body : List Statement) : Prop :=
  ∃ before after, statements = before ++ .header name :: (body ++ after) ∧
    (∀ s ∈ body, isBoundary s = false) ∧ (∀ s ∈ after.head?, isBoundary s) ∧
    .header name ∉ after

def LeftOpen (statements : List Statement) : Prop :=
  ∃ name before after, statements = before ++ .header name :: after ∧ .close ∉ after

def Idle (name : Text) (b : Blocks) : Prop := ∀ open' ∈ b.current, open'.name ≠ name

theorem isBoundary_iff : isBoundary s = true ↔ (∃ name, s = .header name) ∨ s = .close := by
  cases s <;> simp [isBoundary]

theorem feed_header (b : Blocks) (name : Text) :
    b.feed (.header name) = ⟨some ⟨name, []⟩, b.finish⟩ := rfl

theorem feed_close (b : Blocks) : b.feed .close = ⟨none, b.finish⟩ := by
  rcases b with ⟨_ | body, functions⟩ <;> rfl

theorem feed_outside (functions : FunctionTable) (hs : isBoundary s = false) :
    (⟨none, functions⟩ : Blocks).feed s = ⟨none, functions⟩ := by
  cases s <;> first | rfl | cases hs

theorem feed_inside (commands : List Text) (functions : FunctionTable)
    (hs : isBoundary s = false) :
    (⟨some ⟨name, commands⟩, functions⟩ : Blocks).feed s =
      ⟨some ⟨name, commands ++ s.command?.toList⟩, functions⟩ := by
  cases s with
  | header name | close => cases hs
  | declare name value | say message | execute conditions action | command word rest => rfl
  | unmatched => simp [Blocks.feed, Statement.command?]

theorem isOpen_feed (b : Blocks) (s : Statement) :
    (b.feed s).isOpen = true ↔ (∃ name, s = .header name) ∨ b.isOpen = true ∧ s ≠ .close := by
  cases hs : isBoundary s with
  | true =>
      rcases isBoundary_iff.1 hs with ⟨name, rfl⟩ | rfl
      · simp [feed_header, Blocks.isOpen]
      · simp [feed_close, Blocks.isOpen]
  | false =>
      have hne : s ≠ .close := by
        rintro rfl
        cases hs
      have hnh : ¬∃ name, s = .header name := by
        rintro ⟨name, rfl⟩
        cases hs
      rcases b with ⟨_ | ⟨name, commands⟩, functions⟩
      · simp [feed_outside functions hs, Blocks.isOpen, hnh]
      · simp [feed_inside commands functions hs, Blocks.isOpen, hne]

theorem leftOpen_cons (s : Statement) (statements : List Statement) :
    LeftOpen (s :: statements) ↔
      (∃ name, s = .header name) ∧ .close ∉ statements ∨ LeftOpen statements := by
  constructor
  · rintro ⟨name, before, after, heq, hclose⟩
    rcases List.cons_eq_append_iff.1 heq with ⟨rfl, htail⟩ | ⟨before, rfl, rfl⟩
    · cases htail
      exact .inl ⟨⟨name, rfl⟩, hclose⟩
    · exact .inr ⟨name, before, after, rfl, hclose⟩
  · rintro (⟨⟨name, rfl⟩, hclose⟩ | ⟨name, before, after, rfl, hclose⟩)
    · exact ⟨name, [], statements, rfl, hclose⟩
    · exact ⟨name, s :: before, after, rfl, hclose⟩

theorem isOpen_feedAll (b : Blocks) (statements : List Statement) :
    (b.feedAll statements).isOpen = true ↔
      b.isOpen = true ∧ .close ∉ statements ∨ LeftOpen statements := by
  induction statements generalizing b with
  | nil =>
      have hnone : ¬LeftOpen [] := by
        rintro ⟨name, before, after, heq, -⟩
        simp at heq
      simp [Blocks.feedAll, hnone]
  | cons s statements ih =>
      have hrun : b.feedAll (s :: statements) = (b.feed s).feedAll statements := rfl
      rw [hrun, ih, isOpen_feed, leftOpen_cons, List.mem_cons, not_or, ne_comm]
      tauto

theorem feed_idle (h : Idle name b) (hs : s ≠ .header name) :
    Idle name (b.feed s) ∧ (b.feed s).functions.get? name = b.functions.get? name := by
  have hfinish : b.finish.get? name = b.functions.get? name := by
    rcases b with ⟨_ | body, functions⟩
    · rfl
    · have hne : name ≠ body.name := Ne.symm (h body rfl)
      simp [Blocks.finish, Blocks.close, FunctionTable.get?_insert, hne]
  cases hb : isBoundary s with
  | true =>
      rcases isBoundary_iff.1 hb with ⟨other, rfl⟩ | rfl
      · have hne : other ≠ name := fun he => hs (he ▸ rfl)
        exact ⟨by simpa [Idle, feed_header] using hne, hfinish⟩
      · rw [feed_close]
        exact ⟨by simp [Idle], hfinish⟩
  | false =>
      rcases b with ⟨_ | ⟨other, commands⟩, functions⟩
      · rw [feed_outside functions hb]
        exact ⟨h, rfl⟩
      · rw [feed_inside commands functions hb]
        exact ⟨by simpa [Idle] using h, rfl⟩

theorem feedAll_idle (h : Idle name b) (hs : .header name ∉ statements) :
    (b.feedAll statements).finish.get? name = b.functions.get? name := by
  induction statements generalizing b with
  | nil =>
      have hfeed := (feed_idle h (s := .close) (by simp)).2
      rwa [feed_close] at hfeed
  | cons s statements ih =>
      obtain ⟨hidle, hget⟩ := feed_idle h (s := s) (fun he => hs (by simp [he]))
      rw [← hget]
      exact ih hidle (fun hm => hs (by simp [hm]))

theorem feedAll_inside (name : Text) (commands : List Text) (functions : FunctionTable)
    (hbody : ∀ s ∈ body, isBoundary s = false) :
    (⟨some ⟨name, commands⟩, functions⟩ : Blocks).feedAll body =
      ⟨some ⟨name, commands ++ commandsOf body⟩, functions⟩ := by
  induction body generalizing commands with
  | nil => simp [Blocks.feedAll, commandsOf]
  | cons s body ih =>
      have hs : isBoundary s = false := hbody s (by simp)
      have hstep : (⟨some ⟨name, commands⟩, functions⟩ : Blocks).feedAll (s :: body) =
          (⟨some ⟨name, commands ++ s.command?.toList⟩, functions⟩ : Blocks).feedAll body := by
        rw [← feed_inside commands functions hs]
        rfl
      rw [hstep, ih _ (fun s hm => hbody s (by simp [hm])), List.append_assoc]
      cases hc : s.command? <;> simp [commandsOf, hc]

theorem get?_of_isLastBlock (h : IsLastBlock name statements body) :
    (FunctionTable.ofStatements statements).get? name = some (commandsOf body) := by
  obtain ⟨before, after, rfl, hbody, hafter, hlast⟩ := h
  let reached : Blocks := ⟨some ⟨name, commandsOf body⟩, (Blocks.start.feedAll before).finish⟩
  have hinside : Blocks.start.feedAll (before ++ .header name :: (body ++ after)) =
      reached.feedAll after := by
    have hrun := feedAll_inside name [] (Blocks.start.feedAll before).finish hbody
    simp only [Blocks.feedAll, List.foldl_append, List.foldl_cons] at hrun ⊢
    rw [feed_header, hrun]
    rfl
  have hstored : reached.finish.get? name = some (commandsOf body) := by
    simp [reached, Blocks.finish, Blocks.close, FunctionTable.get?_insert]
  rw [FunctionTable.ofStatements, hinside]
  cases after with
  | nil => exact hstored
  | cons s after =>
      -- the boundary stores the body and leaves the name idle
      have hidle : Idle name (reached.feed s) ∧
          (reached.feed s).functions = reached.finish := by
        rcases isBoundary_iff.1 (hafter s rfl) with ⟨other, rfl⟩ | rfl
        · have hne : other ≠ name := by
            rintro rfl
            simp at hlast
          exact ⟨by simpa [Idle, feed_header] using hne, rfl⟩
        · rw [feed_close]
          exact ⟨by simp [Idle], rfl⟩
      have hrest : (reached.feedAll (s :: after)).finish.get? name =
          (reached.feed s).functions.get? name :=
        feedAll_idle hidle.1 (fun hm => hlast (by simp [hm]))
      rw [hrest, hidle.2, hstored]

theorem get?_of_not_mem (h : .header name ∉ statements) :
    (FunctionTable.ofStatements statements).get? name = none :=
  feedAll_idle (b := .start) (by simp [Idle, Blocks.start]) h

theorem exists_isLastBlock (h : .header name ∈ statements) :
    ∃ body, IsLastBlock name statements body := by
  -- the last header for the name is the first from behind
  obtain ⟨later, earlier, heq, hlast⟩ := List.eq_append_cons_of_mem (List.mem_reverse.2 h)
  have hcut : statements = earlier.reverse ++ .header name :: later.reverse := by
    simpa using congrArg List.reverse heq
  let inside (s : Statement) : Bool := !isBoundary s
  have hspan : later.reverse.takeWhile inside ++ later.reverse.dropWhile inside = later.reverse :=
    List.takeWhile_append_dropWhile
  refine ⟨later.reverse.takeWhile inside, earlier.reverse, later.reverse.dropWhile inside,
    by rw [hspan, hcut], ?_, ?_, ?_⟩
  · intro s hs
    have hall := List.all_eq_true.1 List.all_takeWhile s hs
    simpa [inside] using hall
  · intro s hs
    have hhead := List.head?_dropWhile_not inside later.reverse
    rw [Option.mem_def.1 hs] at hhead
    simpa [inside] using hhead
  · intro hm
    exact hlast (List.mem_reverse.1 ((List.dropWhile_sublist inside).subset hm))

theorem get?_ofStatements_iff (statements : List Statement) (name : Text) (commands : List Text) :
    (FunctionTable.ofStatements statements).get? name = some commands ↔
      ∃ body, IsLastBlock name statements body ∧ commands = commandsOf body := by
  constructor
  · intro hget
    by_cases hm : .header name ∈ statements
    · obtain ⟨body, hbody⟩ := exists_isLastBlock hm
      rw [get?_of_isLastBlock hbody] at hget
      exact ⟨body, hbody, (Option.some.inj hget).symm⟩
    · rw [get?_of_not_mem hm] at hget
      cases hget
  · rintro ⟨body, hbody, rfl⟩
    exact get?_of_isLastBlock hbody

theorem mem_names_ofStatements (statements : List Statement) (name : Text) :
    name ∈ (FunctionTable.ofStatements statements).names ↔ .header name ∈ statements := by
  rw [FunctionTable.mem_names]
  constructor
  · rintro ⟨commands, hget⟩
    refine Decidable.byContradiction fun hm => ?_
    rw [get?_of_not_mem hm] at hget
    cases hget
  · intro hm
    obtain ⟨body, hbody⟩ := exists_isLastBlock hm
    exact ⟨commandsOf body, get?_of_isLastBlock hbody⟩

/-- A body is open after a prefix when its last boundary is a header. The
names of the table are the names of all headers, and each has the commands of
its last block and no others. -/
theorem blocks_keep_last (statements : List Statement) :
    (∀ n, (Blocks.start.feedAll (statements.take n)).isOpen = true ↔
      LeftOpen (statements.take n)) ∧
    (∀ name, name ∈ (FunctionTable.ofStatements statements).names ↔
      .header name ∈ statements) ∧
    ∀ name commands, (FunctionTable.ofStatements statements).get? name = some commands ↔
      ∃ body, IsLastBlock name statements body ∧ commands = commandsOf body := by
  refine ⟨fun n => ?_, mem_names_ofStatements statements, get?_ofStatements_iff statements⟩
  rw [isOpen_feedAll]
  simp [Blocks.start, Blocks.isOpen]

end Datapack.Proofs.LastBlock
