import SensorLog.Proofs.Transfer.Retrying
import SensorLog.Proofs.Transfer.Tries

/-!
# The order of retries

The attempts on one frame, over any run of calls, use the orders of the plan one after another, one
packet each, up to the first that the codec does not call corrupt; the transfer gives up exactly when
all of them were (`run_followsPlan`). The history of a run is a `Course`; on one frame a course is a
list of `Attempts`.
-/

namespace SensorLog

/-- The tries on a frame with the numbers of their packets, the first packet having a given number. -/
def triesOn (frame : Nat) : Nat → List Fed → List (Nat × Try)
  | _, [] => []
  | i, fed :: later =>
    (fed.tries.filter (·.frame == frame)).map (fun a => (i, a)) ++ triesOn frame (i + 1) later

/-- A try as attempt `k` on its frame. -/
structure Try.IsAttempt (plan : RetryPlan) (k : Nat) (a : Try) : Prop where
  within : k ≤ plan.orders.length
  order : a.order? = plan.scheduled k
  decoded : a.verdict = .decoded → a.failures = 0
  corrupt : ∀ cause, a.verdict = .corrupt cause → a.failures = k + 1

/-- Tries that are the attempts on a frame from attempt `k` on, which belongs to packet `i`: each packet
    brings one, as long as they are corrupt. -/
inductive Attempts (plan : RetryPlan) : Nat → Nat → List (Nat × Try) → Prop
  | last {i k : Nat} {a : Try} (attempt : a.IsAttempt plan k) : Attempts plan i k [(i, a)]
  | again {i k : Nat} {a : Try} {later : List (Nat × Try)} (attempt : a.IsAttempt plan k)
      (cause : SchemaError) (corrupt : a.verdict = .corrupt cause)
      (onward : Attempts plan (i + 1) (k + 1) later) : Attempts plan i k ((i, a) :: later)

variable {plan : RetryPlan} {frame k i : Nat} {feds : List Fed}

theorem Try.IsAttempt.of_decoded (within : k ≤ plan.orders.length) :
    Try.IsAttempt plan k ⟨frame, plan.scheduled k, .decoded, 0⟩ :=
  ⟨within, rfl, fun _ => rfl, nofun⟩

theorem Try.IsAttempt.of_corrupt (within : k ≤ plan.orders.length) (cause : SchemaError) :
    Try.IsAttempt plan k ⟨frame, plan.scheduled k, .corrupt cause, k + 1⟩ :=
  ⟨within, rfl, nofun, fun _ _ => rfl⟩

theorem Try.IsAttempt.of_mismatch (within : k ≤ plan.orders.length) (cause : SchemaError) :
    Try.IsAttempt plan k ⟨frame, plan.scheduled k, .mismatch cause, k⟩ :=
  ⟨within, rfl, nofun, nofun⟩

/-! ## Attempts by their number -/

theorem Attempts.get {tries : List (Nat × Try)} (attempts : Attempts plan i k tries) {j i' : Nat} {a : Try}
    (found : tries[j]? = some (i', a)) :
    i' = i + j ∧ a.IsAttempt plan (k + j) ∧
      (j + 1 < tries.length → ∃ cause, a.verdict = .corrupt cause) := by
  induction attempts generalizing j with
  | last attempt =>
      cases j with
      | zero =>
          cases found
          exact ⟨rfl, attempt, fun more => absurd more (Nat.lt_irrefl 1)⟩
      | succ j => cases found
  | again attempt cause corrupt onward ih =>
      cases j with
      | zero =>
          cases found
          exact ⟨rfl, attempt, fun _ => ⟨cause, corrupt⟩⟩
      | succ j =>
          obtain ⟨packet, isAttempt, more⟩ := ih found
          rw [Nat.add_right_comm, Nat.add_assoc] at isAttempt
          refine ⟨by omega, isAttempt, ?_⟩
          intro longer
          apply more
          rw [List.length_cons] at longer
          omega

/-! ## The attempts of a course -/

theorem triesOn_of_over (idle : Over feds) : triesOn frame i feds = [] := by
  induction feds generalizing i with
  | nil => rfl
  | cons fed later ih =>
      obtain ⟨⟨none, -⟩, later⟩ := List.forall_mem_cons.1 idle
      rw [triesOn, none, ih later]
      rfl

section Cons

variable {order? : Option PacketOrder} {verdict : Verdict} {count failures : Nat} {tries : List Try}
  {result : Except TransferError Progress}

theorem triesOn_cons_nil :
    triesOn frame i (⟨[], result, failures⟩ :: feds) = triesOn frame (i + 1) feds := rfl

theorem triesOn_cons_self :
    triesOn frame i (⟨⟨frame, order?, verdict, count⟩ :: tries, result, failures⟩ :: feds)
      = (i, ⟨frame, order?, verdict, count⟩) :: triesOn frame i (⟨tries, result, failures⟩ :: feds) := by
  simp only [triesOn, List.filter_cons, beq_self_eq_true, if_true, List.map_cons, List.cons_append]

theorem triesOn_cons_of_ne {other : Nat} (ne : other ≠ frame) :
    triesOn frame i (⟨⟨other, order?, verdict, count⟩ :: tries, result, failures⟩ :: feds)
      = triesOn frame i (⟨tries, result, failures⟩ :: feds) := by
  simp only [triesOn, List.filter_cons, beq_eq_false_iff_ne.2 ne, Bool.false_eq_true, if_false]

theorem triesOn_cons_of_over (idle : Over feds) :
    triesOn frame i (⟨[], result, failures⟩ :: feds) = [] := by
  rw [triesOn_cons_nil, triesOn_of_over idle]

end Cons

theorem mem_triesOn_iff {i' : Nat} {a : Try} :
    (i', a) ∈ triesOn frame i feds ↔
      ∃ j fed, i' = i + j ∧ feds[j]? = some fed ∧ a ∈ fed.tries ∧ a.frame = frame := by
  induction feds generalizing i with
  | nil => simp [triesOn]
  | cons fed later ih =>
      rw [triesOn, List.mem_append, ih]
      constructor
      · rintro (here | ⟨j, fed', rfl, found, member, same⟩)
        · obtain ⟨b, member, pair⟩ := List.mem_map.1 here
          cases pair
          obtain ⟨among, same⟩ := List.mem_filter.1 member
          exact ⟨0, fed, rfl, rfl, among, beq_iff_eq.1 same⟩
        · exact ⟨j + 1, fed', by omega, found, member, same⟩
      · rintro ⟨j, fed', rfl, found, member, same⟩
        cases j with
        | zero =>
            cases found
            exact .inl (List.mem_map.2 ⟨a, List.mem_filter.2 ⟨member, beq_iff_eq.2 same⟩, rfl⟩)
        | succ j => exact .inr ⟨j, fed', by omega, found, member, same⟩

/-- Frames that were decoded before are not read again. -/
theorem Course.triesOn_below (course : Course plan frame k feds) {earlier : Nat} (before : earlier < frame)
    (i : Nat) : triesOn earlier i feds = [] := by
  induction course generalizing i with
  | nil => rfl
  | decoded within onward ih =>
      rw [triesOn_cons_of_ne (Nat.ne_of_gt before)]
      exact ih (Nat.lt_succ_of_lt before) i
  | quiet onward ih => exact ih before (i + 1)
  | retry cause within onward ih =>
      rw [triesOn_cons_of_ne (Nat.ne_of_gt before)]
      exact ih before (i + 1)
  | exhausted cause spent idle =>
      rw [triesOn_cons_of_ne (Nat.ne_of_gt before)]
      exact triesOn_cons_of_over idle
  | mismatch cause within idle =>
      rw [triesOn_cons_of_ne (Nat.ne_of_gt before)]
      exact triesOn_cons_of_over idle
  | ended plain idle => exact triesOn_cons_of_over idle
  | full capacity idle => exact triesOn_cons_of_over idle

/-- The attempts on the frame at hand. After a failure the next one is due at once. -/
theorem Course.triesOn_here (course : Course plan frame k feds) (i : Nat) :
    triesOn frame i feds = [] ∨
      ∃ j, (0 < k → j = i) ∧ Attempts plan j k (triesOn frame i feds) := by
  induction course generalizing i with
  | nil => exact .inl rfl
  | decoded within onward ih =>
      rw [triesOn_cons_self, onward.triesOn_below (Nat.lt_succ_self _)]
      exact .inr ⟨i, fun _ => rfl, .last (.of_decoded within)⟩
  | quiet onward ih =>
      rcases ih (i + 1) with none | ⟨j, -, attempts⟩
      · exact .inl none
      · exact .inr ⟨j, fun failed => absurd failed (Nat.lt_irrefl 0), attempts⟩
  | @retry frame k later cause within onward ih =>
      rw [triesOn_cons_self, triesOn_cons_nil]
      have attempt := @Try.IsAttempt.of_corrupt plan frame k (Nat.le_of_lt within) cause
      refine .inr ⟨i, fun _ => rfl, ?_⟩
      rcases ih (i + 1) with none | ⟨j, due, attempts⟩
      · rw [none]
        exact .last attempt
      · rw [due (Nat.succ_pos _)] at attempts
        exact .again attempt cause rfl attempts
  | exhausted cause spent idle =>
      rw [triesOn_cons_self, triesOn_cons_of_over idle]
      exact .inr ⟨i, fun _ => rfl, .last (.of_corrupt (Nat.le_of_eq spent) cause)⟩
  | mismatch cause within idle =>
      rw [triesOn_cons_self, triesOn_cons_of_over idle]
      exact .inr ⟨i, fun _ => rfl, .last (.of_mismatch within cause)⟩
  | ended plain idle => exact .inl (triesOn_cons_of_over idle)
  | full capacity idle => exact .inl (triesOn_cons_of_over idle)

/-- The attempts on a later frame start in arrival order, like those on the first one. -/
theorem Course.triesOn_above (course : Course plan frame k feds) {later : Nat} (after : frame < later)
    (i : Nat) : triesOn later i feds = [] ∨ ∃ j, Attempts plan j 0 (triesOn later i feds) := by
  induction course generalizing i with
  | nil => exact .inl rfl
  | decoded within onward ih =>
      rw [triesOn_cons_of_ne (Nat.ne_of_lt after)]
      rcases Nat.lt_or_eq_of_le (Nat.succ_le_of_lt after) with beyond | rfl
      · exact ih beyond i
      · rcases onward.triesOn_here i with none | ⟨j, -, attempts⟩
        · exact .inl none
        · exact .inr ⟨j, attempts⟩
  | quiet onward ih => exact ih after (i + 1)
  | retry cause within onward ih =>
      rw [triesOn_cons_of_ne (Nat.ne_of_lt after)]
      exact ih after (i + 1)
  | exhausted cause spent idle =>
      rw [triesOn_cons_of_ne (Nat.ne_of_lt after)]
      exact .inl (triesOn_cons_of_over idle)
  | mismatch cause within idle =>
      rw [triesOn_cons_of_ne (Nat.ne_of_lt after)]
      exact .inl (triesOn_cons_of_over idle)
  | ended plain idle => exact .inl (triesOn_cons_of_over idle)
  | full capacity idle => exact .inl (triesOn_cons_of_over idle)

/-! ## Packets of a course -/

/-- The packet behind a failed attempt reads the frame again, if there is room for it. -/
theorem Course.due {fed : Fed} (course : Course plan frame k (fed :: feds)) (failed : 0 < k) :
    NoRoom fed.result ∨ ∃ a ∈ fed.tries, a.frame = frame := by
  cases course with
  | decoded => exact .inr ⟨_, List.mem_cons_self, rfl⟩
  | quiet => exact absurd failed (Nat.lt_irrefl 0)
  | retry => exact .inr ⟨_, List.mem_cons_self, rfl⟩
  | exhausted => exact .inr ⟨_, List.mem_cons_self, rfl⟩
  | mismatch => exact .inr ⟨_, List.mem_cons_self, rfl⟩
  | ended => exact absurd failed (Nat.lt_irrefl 0)
  | full capacity => exact .inl ⟨capacity, rfl⟩

/-- A corrupt attempt within the plan: "more" is wanted, the failures are counted, and the next packet
    reads the frame again. -/
structure Retried (plan : RetryPlan) (fed : Fed) (a : Try) (next? : Option Fed) : Prop where
  result : fed.result = .ok .more
  failures : fed.failures = a.failures
  due : ∀ next, next? = some next → NoRoom next.result ∨ ∃ b ∈ next.tries, b.frame = a.frame

theorem Over.not_mem {fed : Fed} {a : Try} (idle : Over feds) (found : feds[i]? = some fed) :
    a ∉ fed.tries := by
  obtain ⟨none, -⟩ := idle fed (List.mem_of_getElem? found)
  rw [none]
  exact List.not_mem_nil

theorem Course.retried (course : Course plan frame k feds) {fed : Fed} {a : Try} {cause : SchemaError}
    (found : feds[i]? = some fed) (member : a ∈ fed.tries) (corrupt : a.verdict = .corrupt cause)
    (within : a.failures ≤ plan.orders.length) : Retried plan fed a feds[i + 1]? := by
  induction course generalizing i fed with
  | nil => cases found
  | decoded _ onward ih =>
      cases i with
      | zero =>
          cases found
          rcases List.mem_cons.1 member with rfl | later
          · cases corrupt
          · obtain ⟨result, failures, due⟩ := ih (i := 0) rfl later
            exact ⟨result, failures, due⟩
      | succ i => exact ih (i := i + 1) found member
  | quiet onward ih =>
      cases i with
      | zero => cases found; cases member
      | succ i => exact ih found member
  | @retry frame k later cause' _ onward ih =>
      cases i with
      | zero =>
          cases found
          cases List.mem_singleton.1 member
          refine ⟨rfl, rfl, ?_⟩
          intro next follows
          cases later with
          | nil => cases follows
          | cons fed' later =>
              cases follows
              exact onward.due (Nat.succ_pos k)
      | succ i => exact ih found member
  | exhausted cause' spent idle =>
      cases i with
      | zero =>
          cases found
          cases List.mem_singleton.1 member
          dsimp only at within
          omega
      | succ i => exact absurd member (idle.not_mem found)
  | mismatch cause' _ idle =>
      cases i with
      | zero =>
          cases found
          cases List.mem_singleton.1 member
          cases corrupt
      | succ i => exact absurd member (idle.not_mem found)
  | ended plain idle =>
      cases i with
      | zero => cases found; cases member
      | succ i => exact absurd member (idle.not_mem found)
  | full capacity idle =>
      cases i with
      | zero => cases found; cases member
      | succ i => exact absurd member (idle.not_mem found)

/-- A try that was the last of its plan, and corrupt. -/
def Try.IsLast (plan : RetryPlan) (cause : SchemaError) (a : Try) : Prop :=
  a.verdict = .corrupt cause ∧ a.failures = plan.orders.length + 1

/-- The answer to a packet is "unrecoverable" exactly if the packet led to the last attempt of the plan and
    that one was corrupt. -/
def Fed.GivesUpAtLast (plan : RetryPlan) (fed : Fed) : Prop :=
  ∀ n cause, fed.result = .error (.frame (.unrecoverable n cause)) ↔
    n = plan.orders.length + 1 ∧ ∃ a ∈ fed.tries, a.IsLast plan cause

namespace Fed.GivesUpAtLast

theorem of_plain {fed : Fed} (plain : Plain fed.result)
    (unfinished : ∀ a ∈ fed.tries, ∀ cause, ¬ a.IsLast plan cause) : fed.GivesUpAtLast plan := by
  intro n cause
  apply iff_of_false (plain n cause)
  rintro ⟨-, a, member, last⟩
  exact unfinished a member cause last

/-- A frame that decodes first changes nothing about the last attempt on a later one. -/
theorem cons_decoded {order? : Option PacketOrder} {tries : List Try}
    {result : Except TransferError Progress} {count failures : Nat}
    (rest : Fed.GivesUpAtLast plan ⟨tries, result, failures⟩) :
    Fed.GivesUpAtLast plan ⟨⟨frame, order?, .decoded, count⟩ :: tries, result, failures⟩ := by
  intro n cause
  apply (rest n cause).trans
  apply and_congr_right
  intro spent
  constructor
  · rintro ⟨a, member, last⟩
    exact ⟨a, List.mem_cons_of_mem _ member, last⟩
  · rintro ⟨a, member, corrupt, failed⟩
    rcases List.mem_cons.1 member with rfl | later
    · cases corrupt
    · exact ⟨a, later, corrupt, failed⟩

end Fed.GivesUpAtLast

theorem Over.givesUpAtLast (idle : Over feds) : ∀ fed ∈ feds, fed.GivesUpAtLast plan := by
  intro fed member
  obtain ⟨none, plain⟩ := idle fed member
  apply Fed.GivesUpAtLast.of_plain plain
  rw [none]
  exact List.forall_mem_nil _

theorem Course.givesUpAtLast (course : Course plan frame k feds) : ∀ fed ∈ feds, fed.GivesUpAtLast plan := by
  induction course with
  | nil => exact nofun
  | decoded within onward ih =>
      rw [List.forall_mem_cons] at ih ⊢
      obtain ⟨head, tail⟩ := ih
      exact ⟨head.cons_decoded, tail⟩
  | quiet onward ih =>
      rw [List.forall_mem_cons]
      exact ⟨.of_plain (plain_ok _) (List.forall_mem_nil _), ih⟩
  | retry cause within onward ih =>
      rw [List.forall_mem_cons]
      refine ⟨.of_plain (plain_ok _) ?_, ih⟩
      rw [List.forall_mem_singleton]
      rintro cause' ⟨-, spent⟩
      dsimp only at spent
      omega
  | exhausted cause spent idle =>
      rw [List.forall_mem_cons]
      refine ⟨?_, idle.givesUpAtLast⟩
      intro n cause'
      constructor
      · intro given
        cases given
        exact ⟨by rw [spent], _, List.mem_singleton_self _, rfl, by rw [spent]⟩
      · rintro ⟨rfl, a, member, corrupt, -⟩
        cases List.mem_singleton.1 member
        cases corrupt
        rw [spent]
  | mismatch cause within idle =>
      rw [List.forall_mem_cons]
      refine ⟨.of_plain (plain_schema cause) ?_, idle.givesUpAtLast⟩
      rw [List.forall_mem_singleton]
      rintro cause' ⟨corrupt, -⟩
      cases corrupt
  | ended plain idle =>
      rw [List.forall_mem_cons]
      exact ⟨.of_plain plain (List.forall_mem_nil _), idle.givesUpAtLast⟩
  | full capacity idle =>
      rw [List.forall_mem_cons]
      refine ⟨.of_plain ?_ (List.forall_mem_nil _), idle.givesUpAtLast⟩
      intro n cause given
      cases given

/-! ## Runs follow their plan -/

/-- After the first attempt each order of a plan has its turn once. -/
theorem RetryPlan.scheduled_perm (plan : RetryPlan) :
    ((List.range plan.orders.length).map fun k => plan.scheduled (k + 1)).Perm (plan.orders.map some) := by
  obtain ⟨orders⟩ := plan
  cases orders with
  | nil => exact .refl _
  | cons o rest =>
      have later : ((List.range rest.length).map fun k => scheduled ⟨o :: rest⟩ (k + 1)) = rest.map some := by
        apply List.ext_getElem (by simp)
        intro k bound bound'
        have small : k < rest.length := by simpa using bound
        have turn : (k + 1) % (rest.length + 1) = k + 1 := Nat.mod_eq_of_lt (by omega)
        simp [scheduled, turn, small]
      have last : scheduled ⟨o :: rest⟩ (rest.length + 1) = some o := by
        simp [scheduled]
      rw [List.length_cons, List.range_succ, List.map_append, later, List.map_singleton, last]
      exact List.perm_append_singleton _ _

/-- How the attempts of a history are made under a plan. -/
structure FollowsPlan (plan : RetryPlan) (feds : List Fed) : Prop where
  /-- Attempt `k` on a frame is within the plan and reads in arrival order or, from the second one on, under
      the order at `k` modulo the number of orders. If it decodes, no failure is counted; if it is corrupt,
      there are `k + 1`. -/
  attempt : ∀ (frame k i : Nat) (a : Try), (triesOn frame 0 feds)[k]? = some (i, a) → a.IsAttempt plan k
  /-- Only a corrupt attempt is followed by another one, and that one belongs to the next packet. -/
  next : ∀ (frame k i j : Nat) (a b : Try), (triesOn frame 0 feds)[k]? = some (i, a) →
    (triesOn frame 0 feds)[k + 1]? = some (j, b) → (∃ cause, a.verdict = .corrupt cause) ∧ j = i + 1
  /-- A corrupt attempt with orders left is answered with "more", and it is followed by another one, unless
      no packet follows or there is no room for it. -/
  retry : ∀ (frame k i : Nat) (a : Try) (cause : SchemaError),
    (triesOn frame 0 feds)[k]? = some (i, a) → a.verdict = .corrupt cause → k < plan.orders.length →
      ∃ fed, feds[i]? = some fed ∧ fed.result = .ok .more ∧ fed.failures = k + 1 ∧
        ∀ after, feds[i + 1]? = some after →
          NoRoom after.result ∨ ∃ b, (triesOn frame 0 feds)[k + 1]? = some (i + 1, b)
  /-- The transfer gives a frame up exactly at its last attempt under the plan, when that and all attempts
      before were corrupt, with the error of the last one. -/
  exhausted : ∀ (i : Nat) (fed : Fed) (n : Nat) (cause : SchemaError), feds[i]? = some fed →
    (fed.result = .error (.frame (.unrecoverable n cause)) ↔
      n = plan.orders.length + 1 ∧ ∃ (frame : Nat) (a : Try),
        (triesOn frame 0 feds)[plan.orders.length]? = some (i, a) ∧ a.verdict = .corrupt cause ∧
          ∀ k ≤ plan.orders.length, ∃ (j : Nat) (b : Try) (cause' : SchemaError),
            (triesOn frame 0 feds)[k]? = some (j, b) ∧ b.verdict = .corrupt cause')
  /-- On a frame with all attempts made, those after the first one have used each order once. -/
  covers : ∀ frame : Nat, (triesOn frame 0 feds).length = plan.orders.length + 1 →
    (((triesOn frame 0 feds).drop 1).map (·.2.order?)).Perm (plan.orders.map some)

namespace Course

variable (course : Course plan 0 0 feds)
include course

/-- From the first frame on the tries on every frame are its attempts. -/
theorem attempts (frame : Nat) :
    triesOn frame 0 feds = [] ∨ ∃ j, Attempts plan j 0 (triesOn frame 0 feds) := by
  rcases Nat.eq_zero_or_pos frame with rfl | later
  · rcases course.triesOn_here 0 with none | ⟨j, -, attempts⟩
    · exact .inl none
    · exact .inr ⟨j, attempts⟩
  · exact course.triesOn_above later 0

theorem get (frame : Nat) :
    ∃ j, ∀ (k i : Nat) (a : Try), (triesOn frame 0 feds)[k]? = some (i, a) →
      i = j + k ∧ a.IsAttempt plan k ∧
        (k + 1 < (triesOn frame 0 feds).length → ∃ cause, a.verdict = .corrupt cause) := by
  rcases course.attempts frame with none | ⟨j, attempts⟩
  · exists 0
    rw [none]
    exact nofun
  · exists j
    intro k i a found
    have numbered := attempts.get found
    rw [Nat.zero_add] at numbered
    exact numbered

/-- A corrupt attempt within the plan is retried with the next packet. -/
theorem retry_of_corrupt {k : Nat} {a : Try} {cause : SchemaError}
    (found : (triesOn frame 0 feds)[k]? = some (i, a)) (corrupt : a.verdict = .corrupt cause)
    (within : k < plan.orders.length) :
    ∃ fed, feds[i]? = some fed ∧ fed.result = .ok .more ∧ fed.failures = k + 1 ∧
      ∀ after, feds[i + 1]? = some after →
        NoRoom after.result ∨ ∃ b, (triesOn frame 0 feds)[k + 1]? = some (i + 1, b) := by
  obtain ⟨j, get⟩ := course.get frame
  obtain ⟨rfl, attempt, -⟩ := get k i a found
  have count := attempt.corrupt cause corrupt
  obtain ⟨i', fed, same, packet, member, rfl⟩ := mem_triesOn_iff.1 (List.mem_of_getElem? found)
  rw [Nat.zero_add] at same
  subst same
  obtain ⟨result, failures, due⟩ := course.retried packet member corrupt (by omega)
  refine ⟨fed, packet, result, failures.trans count, ?_⟩
  intro after follows
  apply (due after follows).imp id
  rintro ⟨b, among, onFrame⟩
  have tried : (j + k + 1, b) ∈ triesOn a.frame 0 feds :=
    mem_triesOn_iff.2 ⟨j + k + 1, after, by omega, follows, among, onFrame⟩
  obtain ⟨k', found'⟩ := List.getElem?_of_mem tried
  obtain ⟨position, -, -⟩ := get k' _ b found'
  obtain rfl : k' = k + 1 := by omega
  exact ⟨b, found'⟩

/-- The last attempt of the plan is corrupt only if all attempts before it were. -/
theorem all_corrupt {k : Nat} {a : Try} {cause : SchemaError}
    (found : (triesOn frame 0 feds)[k]? = some (i, a)) (corrupt : a.verdict = .corrupt cause) :
    ∀ k' ≤ k, ∃ (j : Nat) (b : Try) (cause' : SchemaError),
      (triesOn frame 0 feds)[k']? = some (j, b) ∧ b.verdict = .corrupt cause' := by
  intro k' le
  obtain ⟨j, get⟩ := course.get frame
  rcases Nat.lt_or_eq_of_le le with earlier | rfl
  · obtain ⟨bound, -⟩ := List.getElem?_eq_some_iff.1 found
    have found' := List.getElem?_eq_getElem (l := triesOn frame 0 feds) (i := k') (by omega)
    obtain ⟨-, -, more⟩ := get k' _ _ found'
    obtain ⟨cause', corrupt'⟩ := more (by omega)
    exact ⟨_, _, cause', found', corrupt'⟩
  · exact ⟨i, a, cause, found, corrupt⟩

theorem gives_up_iff {fed : Fed} (packet : feds[i]? = some fed) (n : Nat) (cause : SchemaError) :
    fed.result = .error (.frame (.unrecoverable n cause)) ↔
      n = plan.orders.length + 1 ∧ ∃ (frame : Nat) (a : Try),
        (triesOn frame 0 feds)[plan.orders.length]? = some (i, a) ∧ a.verdict = .corrupt cause ∧
          ∀ k ≤ plan.orders.length, ∃ (j : Nat) (b : Try) (cause' : SchemaError),
            (triesOn frame 0 feds)[k]? = some (j, b) ∧ b.verdict = .corrupt cause' := by
  have answer := course.givesUpAtLast fed (List.mem_of_getElem? packet) n cause
  apply answer.trans
  apply and_congr_right
  intro _
  constructor
  · rintro ⟨a, member, corrupt, spent⟩
    have tried : (i, a) ∈ triesOn a.frame 0 feds :=
      mem_triesOn_iff.2 ⟨i, fed, (Nat.zero_add i).symm, packet, member, rfl⟩
    obtain ⟨k, found⟩ := List.getElem?_of_mem tried
    obtain ⟨j, get⟩ := course.get a.frame
    obtain ⟨-, attempt, -⟩ := get k i a found
    have count := attempt.corrupt cause corrupt
    obtain rfl : k = plan.orders.length := by omega
    exact ⟨a.frame, a, found, corrupt, course.all_corrupt found corrupt⟩
  · rintro ⟨frame, a, found, corrupt, -⟩
    obtain ⟨j, get⟩ := course.get frame
    obtain ⟨-, attempt, -⟩ := get _ i a found
    obtain ⟨i', fed', same, packet', member, -⟩ := mem_triesOn_iff.1 (List.mem_of_getElem? found)
    rw [Nat.zero_add] at same
    subst same
    rw [packet] at packet'
    cases packet'
    exact ⟨a, member, corrupt, attempt.corrupt cause corrupt⟩

theorem followsPlan : FollowsPlan plan feds where
  attempt frame k i a found := by
    obtain ⟨j, get⟩ := course.get frame
    exact (get k i a found).2.1
  next frame k i j a b found follows := by
    obtain ⟨first, get⟩ := course.get frame
    obtain ⟨position, -, more⟩ := get k i a found
    obtain ⟨position', -, -⟩ := get (k + 1) j b follows
    obtain ⟨bound, -⟩ := List.getElem?_eq_some_iff.1 follows
    exact ⟨more bound, by omega⟩
  retry frame k i a cause found corrupt within := course.retry_of_corrupt found corrupt within
  exhausted i fed n cause packet := course.gives_up_iff packet n cause
  covers frame full := by
    obtain ⟨j, get⟩ := course.get frame
    have orders : ((triesOn frame 0 feds).drop 1).map (·.2.order?)
        = (List.range plan.orders.length).map fun k => plan.scheduled (k + 1) := by
      apply List.ext_getElem (by simp [full])
      intro k bound bound'
      have small : k + 1 < (triesOn frame 0 feds).length := by
        rw [List.length_map, List.length_drop] at bound
        omega
      have found := List.getElem?_eq_getElem small
      obtain ⟨-, attempt, -⟩ := get (k + 1) _ _ found
      simp only [List.getElem_map, List.getElem_drop, List.getElem_range, Nat.add_comm 1 k]
      exact attempt.order
    rw [orders]
    exact plan.scheduled_perm

end Course

/-- Over any run of calls on a fresh transfer, whose calls are feeds of packets, the attempts on every frame
    follow the plan of the settings, and the calls fail for good with the errors of those packets. -/
theorem Transfer.run_followsPlan {σ : Type} [RowSink σ] (settings : Settings) (registry : Registry)
    (codec : RecordCodec) (sink : σ) (calls : List Call) :
    let t := ofCodec settings registry codec sink
    let packets := t.packetsOf calls
    (t.run calls).transfer = (t.feeds packets).transfer ∧
      (∀ error, error ≠ .closed →
        (.error error ∈ (t.run calls).results ↔ .error error ∈ (t.feeds packets).results)) ∧
      (t.history packets).map (·.result) = (t.feeds packets).results ∧
      FollowsPlan settings.plan (t.history packets) := by
  intro t packets
  have course : Course settings.plan 0 0 (t.history packets) := history_course (.fresh ..) rfl packets
  refine ⟨t.transfer_run calls, ?_, t.results_history packets, course.followsPlan⟩
  intro error opened
  exact error_mem_run_iff opened t calls

end SensorLog
