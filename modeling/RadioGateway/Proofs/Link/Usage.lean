import Mathlib.Data.List.Induction
import RadioGateway.Link.Backlog

/-!
# Backlogs under any use

Both links use their backlog in ways of their own. Whatever is done with a backlog, and in whatever
order, requests leave it in the order in which they came, and nothing that belongs to one head is
left over for the next.
-/

namespace RadioGateway.Link.Backlog

variable {ρ : Type}

inductive Operation (ρ : Type) where
  | enqueue (request : ρ)
  | dequeue
  | modifyHead (change : ρ → ρ)
  | recordFailure
  | forgive
  | arm (phase : Phase) (deadline : Nat)
  | disarm
  | clear

inductive Answer (ρ : Type) where
  | done
  | enqueued (first : Bool)
  | dequeued (request? : Option ρ)
  | modified (found : Bool)
  | recorded (verdict : Verdict ρ)
  | cleared (requests : List ρ)
  deriving DecidableEq, Repr

def perform (backlog : Backlog ρ) : Operation ρ → Answer ρ × Backlog ρ
  | .enqueue request =>
      (.enqueued ((backlog.enqueue request).length == 1), backlog.enqueue request)
  | .dequeue => (.dequeued backlog.head?, backlog.dequeue)
  | .modifyHead change => (.modified (!backlog.isEmpty), backlog.modifyHead change)
  | .recordFailure => (.recorded backlog.recordFailure.1, backlog.recordFailure.2)
  | .forgive => (.done, backlog.forgive)
  | .arm phase deadline => (.done, backlog.arm phase deadline)
  | .disarm => (.done, backlog.disarm)
  | .clear => (.cleared backlog.requests, backlog.clear)

structure Use (ρ : Type) where
  operation : Operation ρ
  answer : Answer ρ

def use (backlog : Backlog ρ) (operation : Operation ρ) : Use ρ :=
  ⟨operation, (backlog.perform operation).1⟩

def after (backlog : Backlog ρ) (operations : List (Operation ρ)) : Backlog ρ :=
  operations.foldl (fun backlog operation => (backlog.perform operation).2) backlog

def uses (backlog : Backlog ρ) : List (Operation ρ) → List (Use ρ)
  | [] => []
  | operation :: later => backlog.use operation :: uses (backlog.perform operation).2 later

theorem after_concat (backlog : Backlog ρ) (operations : List (Operation ρ))
    (operation : Operation ρ) :
    backlog.after (operations ++ [operation]) =
      ((backlog.after operations).perform operation).2 := by
  rw [after, List.foldl_append, List.foldl_cons, List.foldl_nil, after]

theorem uses_concat (backlog : Backlog ρ) (operations : List (Operation ρ))
    (operation : Operation ρ) :
    backlog.uses (operations ++ [operation]) =
      backlog.uses operations ++ [(backlog.after operations).use operation] := by
  induction operations generalizing backlog with
  | nil => rfl
  | cons first later ih => exact congrArg (backlog.use first :: ·) (ih _)

namespace Use

def enqueued? (use : Use ρ) : Option ρ :=
  match use.operation with
  | .enqueue request => some request
  | _ => none

def removed (use : Use ρ) : List ρ :=
  match use.answer with
  | .dequeued request? => request?.toList
  | .recorded (.exhausted request) => [request]
  | .cleared requests => requests
  | _ => []

def change (use : Use ρ) : ρ → ρ :=
  match use.operation, use.answer with
  | .modifyHead change, .modified true => change
  | _, _ => id

def starts (use : Use ρ) : Bool :=
  match use.operation with
  | .arm _ _ => true
  | _ => false

/-- Whether the timer is stopped: by itself, or because requests are removed. -/
def stops (use : Use ρ) : Bool :=
  match use.operation, use.answer with
  | .disarm, _ => true
  | .dequeue, _ => true
  | .clear, _ => true
  | _, .recorded (.exhausted _) => true
  | _, _ => false

def fails (use : Use ρ) : Bool :=
  match use.operation with
  | .recordFailure => true
  | _ => false

/-- Whether another request becomes the head, or the failed transmissions of the head are
forgotten. -/
def renews (use : Use ρ) : Bool :=
  match use.operation, use.answer with
  | .forgive, _ => true
  | _, .enqueued first => first
  | _, .dequeued request? => request?.isSome
  | _, .recorded (.exhausted _) => true
  | _, _ => false

end Use

/-! ## Requests -/

/-- How a request is changed during uses, if so many others leave before it. -/
def changes : List (Use ρ) → Nat → ρ → ρ
  | [], _, request => request
  | use :: later, before, request =>
      let changed := if before = 0 then use.change request else request
      if before < use.removed.length then changed
      else changes later (before - use.removed.length) changed

/-- Requests that stand in line one behind the other, as uses change them while they are at its
head. -/
def changed (history : List (Use ρ)) (requests : List ρ) : List ρ :=
  requests.mapIdx (changes history)

theorem changed_of_unchanged {history : List (Use ρ)}
    (unchanged : ∀ use ∈ history, use.change = id) (requests : List ρ) :
    changed history requests = requests := by
  have same : ∀ before request, changes history before request = request := by
    induction history with
    | nil => exact fun _ _ => rfl
    | cons use later ih =>
        obtain ⟨here, there⟩ := List.forall_mem_cons.mp unchanged
        intro before request
        simp [changes, here, ih there]
  apply List.ext_getElem
  · simp [changed]
  · intro place _ _
    simp [changed, same]

/-- Requests that are all removed by one use are not changed by later ones. -/
theorem changed_append (use : Use ρ) (later : List (Use ρ)) (back : List ρ) :
    (use.removed ++ back).mapIdx (fun before request =>
        if before < use.removed.length then request
        else changes later (before - use.removed.length) request) =
      use.removed ++ changed later back := by
  rw [List.mapIdx_append]
  congr 1
  · apply List.ext_getElem
    · simp
    · intro place _ inside
      simp [inside]
  · have behind (place : Nat) : ¬ place + use.removed.length < use.removed.length :=
      Nat.not_lt.mpr (Nat.le_add_left ..)
    simp [changed, behind]

/-- Changes of the head come first, then those of the requests that are left. -/
theorem changed_cons {use : Use ρ} {line back : List ρ} (later : List (Use ρ))
    (split : line.modifyHead use.change = use.removed ++ back) :
    changed (use :: later) line = use.removed ++ changed later back := by
  rw [← changed_append, ← split]
  cases line with
  | nil => rfl
  | cons head rest => simp [changed, changes, List.mapIdx_cons]

/-- What an operation does to the line: the new request comes behind it, the head may be changed, and
the requests that are removed are its first ones. -/
theorem line_perform (backlog : Backlog ρ) (operation : Operation ρ) (behind : List ρ) :
    (backlog.requests ++ ((backlog.use operation).enqueued?.toList ++ behind)).modifyHead
        (backlog.use operation).change =
      (backlog.use operation).removed ++ ((backlog.perform operation).2.requests ++ behind) := by
  cases operation with
  | enqueue request => simp [use, Use.change, Use.removed, Use.enqueued?, perform]
  | dequeue =>
      cases line : backlog.requests <;>
        simp [use, Use.change, Use.removed, Use.enqueued?, perform, head?, line]
  | modifyHead change =>
      cases line : backlog.requests <;>
        simp [use, Use.change, Use.removed, Use.enqueued?, perform, modifyHead, isEmpty, line]
  | recordFailure =>
      simp only [use, Use.change, Use.removed, Use.enqueued?, perform, recordFailure]
      cases line : backlog.requests with
      | nil => simp [line]
      | cons head rest =>
          by_cases again : backlog.failures + 1 < maxTransmissions <;> simp [again, line]
  | forgive | arm phase deadline | disarm =>
      simp [use, Use.change, Use.removed, Use.enqueued?, perform]
  | clear => simp [use, Use.change, Use.removed, Use.enqueued?, perform, clear]

/-- The requests that were put in line are, in this order, those that were removed and those that are
still there, each changed as it was at the head. -/
theorem removed_append_requests (backlog : Backlog ρ) (operations : List (Operation ρ)) :
    (backlog.uses operations).flatMap Use.removed ++ (backlog.after operations).requests =
      changed (backlog.uses operations)
        (backlog.requests ++ (backlog.uses operations).filterMap Use.enqueued?) := by
  induction operations generalizing backlog with
  | nil => simp [uses, after, changed_of_unchanged]
  | cons operation later ih =>
      -- Requests that are put in line later stand behind the line from the beginning.
      have enqueued : (backlog.uses (operation :: later)).filterMap Use.enqueued? =
          (backlog.use operation).enqueued?.toList ++
            ((backlog.perform operation).2.uses later).filterMap Use.enqueued? := by
        cases new : (backlog.use operation).enqueued? <;> simp [uses, new]
      have split := backlog.line_perform operation
        (((backlog.perform operation).2.uses later).filterMap Use.enqueued?)
      rw [enqueued, uses, List.flatMap_cons, List.append_assoc, changed_cons _ split, ← ih]
      rfl

/-! ## The timer -/

/-- Whether an event is among others, and nothing but calm ones have followed it. -/
def Since {α : Type} (event calm : α → Prop) (history : List α) : Prop :=
  ∃ earlier happened later, history = earlier ++ happened :: later ∧ event happened ∧
    ∀ other ∈ later, calm other

theorem not_since_nil {α : Type} (event calm : α → Prop) : ¬ Since event calm [] := by
  rintro ⟨earlier, happened, later, split, _⟩
  exact List.append_ne_nil_of_right_ne_nil _ (List.cons_ne_nil _ _) split.symm

theorem since_concat {α : Type} (event calm : α → Prop) (history : List α) (last : α) :
    Since event calm (history ++ [last]) ↔
      event last ∨ calm last ∧ Since event calm history := by
  constructor
  · rintro ⟨earlier, happened, later, split, happens, calms⟩
    rcases List.eq_nil_or_concat later with rfl | ⟨between, final, rfl⟩
    · obtain ⟨-, same⟩ := List.append_inj' split rfl
      cases same
      exact .inl happens
    · rw [List.concat_eq_append, ← List.cons_append, ← List.append_assoc] at split
      obtain ⟨rfl, same⟩ := List.append_inj' split rfl
      cases same
      rw [List.concat_eq_append] at calms
      rw [List.forall_mem_append, List.forall_mem_singleton] at calms
      exact .inr ⟨calms.2, _, _, _, rfl, happens, calms.1⟩
  · rintro (happens | ⟨calmLast, earlier, happened, later, rfl, happens, calms⟩)
    · exact ⟨history, last, [], rfl, happens, fun _ none => absurd none List.not_mem_nil⟩
    · refine ⟨earlier, happened, later ++ [last], by simp, happens, ?_⟩
      rw [List.forall_mem_append, List.forall_mem_singleton]
      exact ⟨calms, calmLast⟩

theorem timer_perform (backlog : Backlog ρ) (operation : Operation ρ) :
    (backlog.perform operation).2.deadline.isSome ↔ (backlog.use operation).starts ∨
      ¬ (backlog.use operation).stops ∧ backlog.deadline.isSome := by
  cases operation with
  | recordFailure =>
      simp only [use, Use.starts, Use.stops, perform, recordFailure]
      cases line : backlog.requests with
      | nil => simp
      | cons head rest =>
          by_cases again : backlog.failures + 1 < maxTransmissions <;> simp [again, dequeue]
  | enqueue request | modifyHead change | forgive =>
      simp [use, Use.starts, Use.stops, perform, enqueue, modifyHead, forgive]
  | arm phase deadline => simp [use, Use.starts, perform, arm]
  | dequeue | disarm | clear =>
      simp [use, Use.starts, Use.stops, perform, dequeue, disarm, clear]

/-- The timer runs if it has been started and not been stopped since. -/
theorem timer_iff (operations : List (Operation ρ)) :
    (after {} operations).deadline.isSome ↔
      Since (fun use : Use ρ => use.starts) (fun use => ¬ use.stops) (uses {} operations) := by
  induction operations using List.reverseRecOn with
  | nil => simp [after, uses, not_since_nil]
  | append_singleton operations operation ih =>
      rw [after_concat, uses_concat, since_concat, timer_perform, ih]

/-! ## Failed transmissions -/

inductive Count (backlog : Backlog ρ) (operation : Operation ρ) : Prop where
  | unused (empty : (backlog.perform operation).2.requests = [])
      (none : (backlog.perform operation).2.failures = 0)
  | renewed (renews : (backlog.use operation).renews)
      (none : (backlog.perform operation).2.failures = 0)
  | continued (same : ¬ (backlog.use operation).renews) (before : backlog.requests ≠ [])
      (behind : (backlog.perform operation).2.requests ≠ [])
      (counted : (backlog.perform operation).2.failures =
        backlog.failures + if (backlog.use operation).fails then 1 else 0)

theorem count_perform {backlog : Backlog ρ} (idle : backlog.requests = [] → backlog.failures = 0)
    (operation : Operation ρ) : Count backlog operation := by
  cases line : backlog.requests with
  | nil =>
      have none := idle line
      cases operation with
      | enqueue request =>
          exact .renewed (by simp [use, Use.renews, perform, length, line]) none
      | dequeue => exact .unused (by simp [perform, line]) rfl
      | modifyHead change => exact .unused (by simp [perform, modifyHead, line]) none
      | recordFailure =>
          refine .unused ?_ ?_ <;> simp [perform, recordFailure, line, none]
      | forgive => exact .renewed rfl rfl
      | arm phase deadline | disarm => exact .unused line none
      | clear => exact .unused rfl rfl
  | cons head rest =>
      cases operation with
      | enqueue request =>
          refine .continued ?_ ?_ ?_ ?_ <;>
            simp [use, Use.renews, Use.fails, perform, enqueue, length, line]
      | dequeue => exact .renewed (by simp [use, Use.renews, perform, head?, line]) rfl
      | modifyHead change =>
          refine .continued ?_ ?_ ?_ ?_ <;>
            simp [use, Use.renews, Use.fails, perform, modifyHead, line]
      | recordFailure =>
          by_cases again : backlog.failures + 1 < maxTransmissions
          · refine .continued ?_ ?_ ?_ ?_ <;>
              simp [use, Use.renews, Use.fails, perform, recordFailure, line, again]
          · refine .renewed ?_ ?_ <;>
              simp [use, Use.renews, perform, recordFailure, line, again, dequeue]
      | forgive => exact .renewed rfl rfl
      | arm phase deadline | disarm =>
          refine .continued ?_ ?_ ?_ ?_ <;>
            simp [use, Use.renews, Use.fails, perform, arm, disarm, line]
      | clear => exact .unused rfl rfl

/-- Whether the count of failed transmissions is that of a history: without a request there are none,
and else they are those since the count started again. -/
structure Counted (backlog : Backlog ρ) (history : List (Use ρ)) : Prop where
  few : backlog.failures < maxTransmissions
  idle : backlog.requests = [] → backlog.failures = 0
  busy : backlog.requests ≠ [] → ∃ earlier renewal later,
    history = earlier ++ renewal :: later ∧ renewal.renews ∧ (∀ use ∈ later, ¬ use.renews) ∧
      backlog.failures = later.countP Use.fails

theorem few_perform {backlog : Backlog ρ} (few : backlog.failures < maxTransmissions)
    (operation : Operation ρ) :
    (backlog.perform operation).2.failures < maxTransmissions := by
  have some : 0 < maxTransmissions := by decide
  cases operation with
  | recordFailure =>
      simp only [perform, recordFailure]
      cases backlog.requests with
      | nil => exact few
      | cons head rest =>
          by_cases again : backlog.failures + 1 < maxTransmissions
          · simp only [if_pos again]
            exact again
          · simp only [if_neg again]
            exact some
  | dequeue | forgive | clear => exact some
  | enqueue request | modifyHead change | arm phase deadline | disarm => exact few

theorem Counted.perform {backlog : Backlog ρ} {history : List (Use ρ)}
    (counted : Counted backlog history) (operation : Operation ρ) :
    Counted (backlog.perform operation).2 (history ++ [backlog.use operation]) := by
  refine ⟨few_perform counted.few operation, ?_, ?_⟩
  · intro empty
    cases count_perform counted.idle operation with
    | unused _ none => exact none
    | renewed _ none => exact none
    | continued same before behind _ => exact absurd empty behind
  · intro some
    cases count_perform counted.idle operation with
    | unused empty _ => exact absurd empty some
    | renewed renews none =>
        exact ⟨history, _, [], rfl, renews, fun _ never => absurd never List.not_mem_nil, none⟩
    | continued same before behind count =>
        obtain ⟨earlier, renewal, later, split, renews, none, failures⟩ := counted.busy before
        refine ⟨earlier, renewal, later ++ [backlog.use operation], by simp [split], renews, ?_, ?_⟩
        · rw [List.forall_mem_append, List.forall_mem_singleton]
          exact ⟨none, same⟩
        · rw [count, failures, List.countP_append, List.countP_singleton]

theorem counted_after (operations : List (Operation ρ)) :
    Counted (after {} operations) (uses {} operations) := by
  induction operations using List.reverseRecOn with
  | nil =>
      exact ⟨show 0 < 3 by decide, fun _ => rfl, fun some => absurd rfl some⟩
  | append_singleton operations operation ih =>
      rw [after_concat, uses_concat]
      exact ih.perform operation

theorem clean_perform {backlog : Backlog ρ} {operation : Operation ρ}
    (some : (backlog.use operation).removed ≠ []) :
    (backlog.perform operation).2.failures = 0 ∧ (backlog.perform operation).2.phase = .idle ∧
      (backlog.perform operation).2.deadline = none := by
  cases operation with
  | recordFailure =>
      simp only [use, Use.removed, perform, recordFailure] at some ⊢
      cases line : backlog.requests with
      | nil => simp [line] at some
      | cons head rest =>
          by_cases again : backlog.failures + 1 < maxTransmissions
          · simp [line, again] at some
          · simp only [if_neg again]
            exact ⟨rfl, rfl, rfl⟩
  | dequeue | clear => exact ⟨rfl, rfl, rfl⟩
  | enqueue request | modifyHead change | forgive | arm phase deadline | disarm =>
      exact absurd rfl some

theorem answer_enqueue (backlog : Backlog ρ) (request : ρ) :
    (backlog.perform (.enqueue request)).1 = .enqueued backlog.isEmpty := by
  cases line : backlog.requests <;> simp [perform, length, isEmpty, line]

theorem perform_recordFailure_of_empty {backlog : Backlog ρ} (empty : backlog.requests = []) :
    backlog.perform .recordFailure = (.recorded .none, backlog) := by
  simp [perform, recordFailure, empty]

theorem answer_recordFailure {backlog : Backlog ρ} {head : ρ} {rest : List ρ}
    (line : backlog.requests = head :: rest) (few : backlog.failures < maxTransmissions) :
    (backlog.perform .recordFailure).1 =
      .recorded (if backlog.failures = 2 then .exhausted head else .again) := by
  rw [maxTransmissions] at few
  by_cases last : backlog.failures = 2
  · simp [perform, recordFailure, line, maxTransmissions, last]
  · have again : backlog.failures + 1 < 3 := by omega
    simp [perform, recordFailure, line, maxTransmissions, last, again]

/-- Whatever is done with a new backlog, fewer than three failed transmissions are counted. The
requests leave it in the order in which they were put in line, changed only as each one was at the
head. A request is told to be the head exactly if there was none. When a request is removed, the
count and the timer are reset. The timer runs exactly if it has been started and not been stopped
since, be it by itself, by `dequeue` or `clear` or with a request that was given up. To count a
failure without a request changes nothing; with one, the head is given up exactly at its third
failure since it came to the head or its failures were forgotten, whichever was later. -/
theorem uses_keep_order_and_budget (operations : List (Operation ρ)) :
    let backlog := after {} operations
    let history := uses {} operations
    let enqueued := history.filterMap Use.enqueued?
    backlog.failures < 3 ∧
    history.flatMap Use.removed ++ backlog.requests = changed history enqueued ∧
    ((∀ use ∈ history, use.change = id) →
      history.flatMap Use.removed ++ backlog.requests = enqueued) ∧
    (∀ request, (backlog.perform (.enqueue request)).1 = .enqueued backlog.isEmpty) ∧
    (∀ operation, (backlog.use operation).removed ≠ [] →
      let next := (backlog.perform operation).2
      next.failures = 0 ∧ next.phase = .idle ∧ next.deadline = none) ∧
    (backlog.deadline.isSome ↔
      Since (fun use : Use ρ => use.starts) (fun use => ¬ use.stops) history) ∧
    (backlog.requests = [] → backlog.perform .recordFailure = (.recorded .none, backlog)) ∧
    ∀ head rest, backlog.requests = head :: rest → ∃ earlier renewal later,
      history = earlier ++ renewal :: later ∧ renewal.renews ∧ (∀ use ∈ later, ¬ use.renews) ∧
      later.countP Use.fails < 3 ∧
      (backlog.perform .recordFailure).1 =
        .recorded (if later.countP Use.fails = 2 then .exhausted head else .again) := by
  intro backlog history enqueued
  have counted : Counted backlog history := counted_after operations
  have order : history.flatMap Use.removed ++ backlog.requests = changed history enqueued :=
    removed_append_requests {} operations
  refine ⟨counted.few, order, fun unchanged => ?_, backlog.answer_enqueue,
    fun operation => clean_perform, timer_iff operations, perform_recordFailure_of_empty,
    fun head rest line => ?_⟩
  · rw [order, changed_of_unchanged unchanged]
  · have some : backlog.requests ≠ [] := by
      rw [line]
      exact List.cons_ne_nil _ _
    obtain ⟨earlier, renewal, later, split, renews, none, failures⟩ := counted.busy some
    refine ⟨earlier, renewal, later, split, renews, none, ?_, ?_⟩
    · rw [← failures]
      exact counted.few
    · rw [← failures]
      exact answer_recordFailure line counted.few

/-- The head has been changed, and its first two failures were forgotten. -/
theorem third_failure_since_forgiving :
    let operations : List (Operation Nat) :=
      [.enqueue 1, .enqueue 2, .recordFailure, .modifyHead (· + 10), .recordFailure, .forgive,
        .recordFailure, .recordFailure, .arm .transmission 1500]
    let backlog := after {} operations
    let next := (backlog.perform .recordFailure).2
    backlog.requests = [11, 2] ∧ backlog.deadline = some 1500 ∧
      (backlog.use .recordFailure).removed = [11] ∧ next.requests = [2] ∧
      next.failures = 0 ∧ next.phase = .idle ∧ next.deadline = none := by
  intro operations backlog next
  have removed : (backlog.use .recordFailure).removed = [11] := by decide
  obtain ⟨_, _, _, _, clean, _⟩ := uses_keep_order_and_budget operations
  exact ⟨by decide, by decide, removed, by decide,
    clean .recordFailure (by rw [removed]; exact List.cons_ne_nil _ _)⟩

end RadioGateway.Link.Backlog
