import AttributeRelease.Pattern.Program
import AttributeRelease.Proofs.Pattern.Numbering

/-!
# Programs of patterns

The part of a program that a pattern is laid out as keeps to itself: it goes on inside the part or
right behind it, notes no bounds of the match, and accepts nothing (`fits_layout`). A search finds
what a thread has noted that accepts; of such a thread everything holds that holds at the beginning
and is kept by each step (`exists_of_run`).
-/

namespace AttributeRelease.Pattern

open Unicode (CodeSet)

/-! ## Parts of a program -/

/-- The instruction goes on between two addresses or with the next one, notes only groups that are
captured, and does not accept. -/
def Instr.Stays (low high : Nat) : Instr → Prop
  | .char _ => True
  | .look _ => True
  | .save slot => 2 ≤ slot
  | .split first second => (low ≤ first ∧ first ≤ high) ∧ low ≤ second ∧ second ≤ high
  | .jump target => low ≤ target ∧ target ≤ high
  | .accept => False

/-- A part of a program that stays inside itself when it is laid out from an address on. -/
def Fits (part : List Instr) (start : Nat) : Prop :=
  ∀ instr ∈ part, instr.Stays start (start + part.length)

variable {instr : Instr} {part behind : List Instr} {start : Nat}

/-- What stays between two addresses stays between addresses further apart. -/
theorem Instr.Stays.widen {low high low' high' : Nat} (stays : instr.Stays low high)
    (lower : low' ≤ low) (higher : high ≤ high') : instr.Stays low' high' := by
  cases instr with
  | char | look | save | accept => exact stays
  | split first second =>
    obtain ⟨⟨_, _⟩, _, _⟩ := stays
    refine ⟨⟨?_, ?_⟩, ?_, ?_⟩ <;> omega
  | jump target =>
    obtain ⟨_, _⟩ := stays
    constructor <;> omega

/-- A greedy branch and a lazy one lead to the same two addresses, in another order. -/
theorem stays_branch {greedy : Bool} {onward away low high : Nat}
    (inside : low ≤ onward ∧ onward ≤ high) (insideAway : low ≤ away ∧ away ≤ high) :
    (branch greedy onward away).Stays low high := by
  cases greedy with
  | true => exact ⟨inside, insideAway⟩
  | false => exact ⟨insideAway, inside⟩

theorem fits_nil (start : Nat) : Fits [] start := nofun

/-- Parts that are laid out one behind the other stay inside the whole. -/
theorem Fits.append (fits : Fits part start) (fitsBehind : Fits behind (start + part.length)) :
    Fits (part ++ behind) start := by
  intro instr listed
  rw [List.length_append]
  obtain first | second := List.mem_append.mp listed
  · exact (fits instr first).widen (Nat.le_refl _) (by omega)
  · exact (fitsBehind instr second).widen (by omega) (by omega)

/-- An instruction in front of a part may go on inside it or behind it. -/
theorem Fits.cons (stays : instr.Stays start (start + 1 + part.length))
    (fits : Fits part (start + 1)) : Fits (instr :: part) start := by
  intro other listed
  rw [List.length_cons]
  obtain _ | ⟨_, listed⟩ := listed
  · exact stays.widen (Nat.le_refl _) (by omega)
  · exact (fits other listed).widen (by omega) (by omega)

/-- An instruction behind a part may go back into it. -/
theorem Fits.loop (fits : Fits part start) (stays : instr.Stays start (start + part.length + 1)) :
    Fits (part ++ [instr]) start := by
  intro other listed
  rw [List.length_append]
  obtain inside | last := List.mem_append.mp listed
  · exact (fits other inside).widen (Nat.le_refl _) (by omega)
  · rw [List.mem_singleton.mp last]
    exact stays

/-! ## The length of a part -/

section Repeated

variable {layout : Nat → List Instr} {size : Nat}

/-- Each of the copies of a part is as long as the part. -/
theorem length_copies (sized : ∀ start, (layout start).length = size) (count start : Nat) :
    (copies layout count start).length = count * size := by
  induction count generalizing start with
  | zero => exact (Nat.zero_mul _).symm
  | succ count ih => rw [copies, List.length_append, ih, sized, Nat.succ_mul, Nat.add_comm]

/-- Each optional copy of a part has a branch in front of it. -/
theorem length_optionals (sized : ∀ start, (layout start).length = size) (greedy : Bool)
    (finish count start : Nat) :
    (optionals layout greedy size finish count start).length = count * (size + 1) := by
  induction count generalizing start with
  | zero => exact (Nat.zero_mul _).symm
  | succ count ih =>
    rw [optionals, List.length_cons, List.length_append, ih, sized, Nat.succ_mul]
    omega

/-- Copies that are laid out one behind the other stay inside the whole. -/
theorem fits_copies (fits : ∀ start, Fits (layout start) start) (count start : Nat) :
    Fits (copies layout count start) start := by
  induction count generalizing start with
  | zero => exact fits_nil start
  | succ count ih => exact (fits start).append (ih _)

/-- Whoever skips a copy goes on behind the last one. -/
theorem fits_optionals (sized : ∀ start, (layout start).length = size)
    (fits : ∀ start, Fits (layout start) start) (greedy : Bool) (count start : Nat) :
    Fits (optionals layout greedy size (start + count * (size + 1)) count start) start := by
  induction count generalizing start with
  | zero => exact fits_nil start
  | succ count ih =>
    have finish : start + (count + 1) * (size + 1) =
        start + 1 + size + count * (size + 1) := by
      rw [Nat.succ_mul]
      omega
    rw [optionals, finish]
    refine .cons (stays_branch ?_ ?_) ((fits _).append ?_)
    · omega
    · rw [List.length_append, length_optionals sized, sized]
      omega
    · rw [sized]
      exact ih _

end Repeated

/-- A part is as long wherever it stands. -/
theorem exists_length_layout (node : Node) :
    ∃ size, ∀ start, (node.layout start).length = size := by
  induction node with
  | empty | set | look => exact ⟨_, fun _ => rfl⟩
  | group index body ih =>
    obtain ⟨size, sized⟩ := ih
    exact ⟨size + 1 + 1, fun start => by simp [Node.layout, sized]⟩
  | cat first second ihFirst ihSecond =>
    obtain ⟨size, sized⟩ := ihFirst
    obtain ⟨sizeBehind, sizedBehind⟩ := ihSecond
    exact ⟨size + sizeBehind, fun start => by simp [Node.layout, sized, sizedBehind]⟩
  | alt first second ihFirst ihSecond =>
    obtain ⟨size, sized⟩ := ihFirst
    obtain ⟨sizeOther, sizedOther⟩ := ihSecond
    exact ⟨size + (sizeOther + 1) + 1, fun start => by simp [Node.layout, sized, sizedOther]⟩
  | repeated least most greedy body ih =>
    obtain ⟨size, sized⟩ := ih
    cases most with
    | some most =>
      refine ⟨least * size + (most - least) * (size + 1), fun start => ?_⟩
      simp only [Node.layout, List.length_append, length_copies sized, length_optionals sized,
        sized]
    | none =>
      cases least with
      | zero => exact ⟨size + 1 + 1, fun start => by simp [Node.layout, sized]⟩
      | succ least =>
        exact ⟨least * size + (size + 1), fun start => by
          simp [Node.layout, length_copies sized, sized]⟩

theorem length_layout (node : Node) (start : Nat) :
    (node.layout start).length = (node.layout 0).length := by
  obtain ⟨size, sized⟩ := exists_length_layout node
  rw [sized, sized]

/-- A pattern with captures numbered from one on is laid out as a part that stays inside itself. -/
theorem fits_layout (node : Node) (numbered : 0 ∉ node.groups) (start : Nat) :
    Fits (node.layout start) start := by
  induction node generalizing start with
  | empty => exact fits_nil start
  | set | look => exact .cons trivial (fits_nil _)
  | group index body ih =>
    obtain ⟨positive, numbered⟩ := List.ne_and_not_mem_of_not_mem_cons numbered
    have captures : 1 ≤ index := Nat.pos_of_ne_zero fun zero => positive zero.symm
    refine .cons ?_ ((ih numbered _).loop ?_)
    · change 2 ≤ 2 * index
      omega
    · change 2 ≤ 2 * index + 1
      omega
  | cat first second ihFirst ihSecond =>
    rw [Node.groups, List.mem_append, not_or] at numbered
    exact (ihFirst numbered.1 _).append (ihSecond numbered.2 _)
  | alt first second ihFirst ihSecond =>
    rw [Node.groups, List.mem_append, not_or] at numbered
    rw [Node.layout]
    refine .cons ?_ ((ihFirst numbered.1 _).append (.cons ?_ (ihSecond numbered.2 _)))
    · rw [List.length_append, List.length_cons]
      refine ⟨⟨?_, ?_⟩, ?_, ?_⟩ <;> omega
    · constructor <;> omega
  | repeated least most greedy body ih =>
    have fits := ih numbered
    have sized := length_layout body
    cases most with
    | some most =>
      exact (fits_copies fits least start).append (fits_optionals sized fits greedy _ _)
    | none =>
      cases least with
      | zero =>
        refine .cons (stays_branch ?_ ?_) ((fits _).loop (stays_branch ?_ ?_))
        all_goals
          simp only [List.length_append, List.length_cons, sized (start + 1)]
          omega
      | succ least =>
        refine ((fits_copies fits least start).append (fits _)).loop (stays_branch ?_ ?_)
        all_goals
          simp only [List.length_append, sized (start + _)]
          omega

/-! ## Searching -/

section Search

variable {program : Array Instr} {text : Array Char} {thread next : Thread}

theorem mem_step_char {chars : CodeSet} (listed : next ∈ step text (.char chars) thread) :
    thread.position < text.size ∧
      next = ⟨thread.address + 1, thread.position + 1, thread.slots⟩ := by
  simp only [step] at listed
  split at listed
  · rename_i c found
    split at listed
    · exact ⟨(Array.getElem?_eq_some_iff.mp found).1, List.mem_singleton.mp listed⟩
    · cases listed
  · cases listed

theorem mem_step_look {condition : Look} (listed : next ∈ step text (.look condition) thread) :
    condition.holds (if thread.position = 0 then none else text[thread.position - 1]?)
        text[thread.position]? = true ∧
      next = ⟨thread.address + 1, thread.position, thread.slots⟩ :=
  (List.mem_ite_nil_right.mp listed).imp_right List.mem_singleton.mp

theorem mem_step_save {slot : Nat} (listed : next ∈ step text (.save slot) thread) :
    next = ⟨thread.address + 1, thread.position, (slot, thread.position) :: thread.slots⟩ :=
  List.mem_singleton.mp listed

theorem mem_step_split {first second : Nat}
    (listed : next ∈ step text (.split first second) thread) :
    next = { thread with address := first } ∨ next = { thread with address := second } :=
  (List.mem_cons.mp listed).imp_right List.mem_singleton.mp

theorem mem_step_jump {target : Nat} (listed : next ∈ step text (.jump target) thread) :
    next = { thread with address := target } :=
  List.mem_singleton.mp listed

/-- No instruction passes the end of the text. -/
theorem position_le_of_step (inside : thread.position ≤ text.size)
    (listed : next ∈ step text instr thread) : next.position ≤ text.size := by
  cases instr with
  | char chars =>
    obtain ⟨before, rfl⟩ := mem_step_char listed
    exact before
  | look condition =>
    obtain ⟨_, rfl⟩ := mem_step_look listed
    exact inside
  | save slot =>
    cases mem_step_save listed
    exact inside
  | split first second =>
    obtain rfl | rfl := mem_step_split listed
    · exact inside
    · exact inside
  | jump target =>
    cases mem_step_jump listed
    exact inside
  | accept => cases listed

/-- A step by an instruction of a part leads into the part or right behind it, and what was noted
of the match stays. -/
theorem step_stays {low high : Nat} (stays : instr.Stays low high) (above : low ≤ thread.address)
    (below : thread.address < high) (listed : next ∈ step text instr thread) :
    (low ≤ next.address ∧ next.address ≤ high) ∧
      ∀ slot < 2, next.slots.lookup slot = thread.slots.lookup slot := by
  have onward : low ≤ thread.address + 1 ∧ thread.address + 1 ≤ high :=
    ⟨Nat.le_succ_of_le above, below⟩
  cases instr with
  | char chars =>
    obtain ⟨_, rfl⟩ := mem_step_char listed
    exact ⟨onward, fun _ _ => rfl⟩
  | look condition =>
    obtain ⟨_, rfl⟩ := mem_step_look listed
    exact ⟨onward, fun _ _ => rfl⟩
  | save slot =>
    cases mem_step_save listed
    refine ⟨onward, fun own small => ?_⟩
    have other : own ≠ slot := Nat.ne_of_lt (Nat.lt_of_lt_of_le small stays)
    rw [List.lookup_cons, beq_false_of_ne other]
  | split first second =>
    obtain rfl | rfl := mem_step_split listed
    · exact ⟨stays.1, fun _ _ => rfl⟩
    · exact ⟨stays.2, fun _ _ => rfl⟩
  | jump target =>
    cases mem_step_jump listed
    exact ⟨stays, fun _ _ => rfl⟩
  | accept => cases stays

/-- What a search finds was noted by a thread that accepts, and of that thread everything holds that
holds of the threads at the beginning and is kept by each step. -/
theorem exists_of_run {invariant : Thread → Prop}
    (kept : ∀ {thread instr}, invariant thread → program[thread.address]? = some instr →
      ∀ next ∈ step text instr thread, invariant next)
    {fuel : Nat} {seen : Array Bool} {threads : List Thread} {slots : Slots}
    (holds : ∀ thread ∈ threads, invariant thread)
    (found : run program text fuel seen threads = some slots) :
    ∃ thread, invariant thread ∧ program[thread.address]? = some .accept ∧
      thread.slots = slots := by
  fun_induction run program text fuel seen threads with
  | case1 => cases found
  | case2 => cases found
  | case3 seen fuel thread rest mark tried ih => exact ih (List.forall_mem_cons.mp holds).2 found
  | case4 seen fuel thread rest mark new absent ih =>
    exact ih (List.forall_mem_cons.mp holds).2 found
  | case5 seen fuel thread rest mark new accepts =>
    exact ⟨thread, holds thread List.mem_cons_self, accepts, Option.some.inj found⟩
  | case6 seen fuel thread rest mark new instr other present ih =>
    obtain ⟨first, others⟩ := List.forall_mem_cons.mp holds
    exact ih (List.forall_mem_append.mpr ⟨kept first present, others⟩) found

end Search

end AttributeRelease.Pattern
