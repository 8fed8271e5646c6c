import Mathlib.Order.Monotone.Basic
import NotebookKernel.Magic.Timing
import NotebookKernel.Proofs.Evaluator.Traces

/-!
# How often timed code is run

A timing run tries the loop counts 1, 2, 5, 10, 20, 50 and so on, `Timing.loopCount`, until one takes
long enough, and then measures with that one. `Evaluator.Measured` is the record of such a run together
with what comes of it, for an evaluator that may answer anything at any time. It is at most 27 requests
long.
-/

namespace NotebookKernel

open Act hiding pure

variable {σ α β : Type}

/-! ## The sequence of loop counts -/

namespace Timing

/-- The loop count at a place of the sequence 1, 2, 5, 10, 20, 50 and so on. -/
def loopCount : Nat → Nat
  | 0 => 1
  | 1 => 2
  | 2 => 5
  | i + 3 => 10 * loopCount i

/-- What is tried at a place of the sequence. -/
def tried : Nat → LoopCount
  | 0 => .first
  | i + 1 => (tried i).next

theorem LoopCount.value_next_next_next (n : LoopCount) : n.next.next.next.value = 10 * n.value := by
  obtain ⟨base, multiplier, hpos⟩ := n
  cases multiplier <;> simp only [value, next, Multiplier.value] <;> omega

theorem LoopCount.base_le_value (n : LoopCount) : n.base ≤ n.value := by
  obtain ⟨base, multiplier, hpos⟩ := n
  cases multiplier <;> simp only [value, Multiplier.value] <;> omega

theorem value_tried (i : Nat) : (tried i).value = loopCount i := by
  fun_induction loopCount i with
  | case1 => rfl
  | case2 => rfl
  | case3 => rfl
  | case4 i ih => exact (LoopCount.value_next_next_next _).trans (congrArg (10 * ·) ih)

theorem strictMono_loopCount : StrictMono loopCount := by
  refine strictMono_nat_of_lt_succ fun i => ?_
  rw [← value_tried, ← value_tried]
  exact (tried i).value_lt_value_next

theorem loopCount_last : loopCount 21 = maxLoops := rfl

theorem maxLoops_le_loopCount_iff {i : Nat} : maxLoops ≤ loopCount i ↔ 21 ≤ i := by
  rw [← loopCount_last]
  exact strictMono_loopCount.le_iff_le

theorem loopCount_le_maxLoops {i : Nat} (h : i ≤ 21) : loopCount i ≤ maxLoops := by
  rw [← loopCount_last]
  exact strictMono_loopCount.monotone h

theorem loopCount_pos (i : Nat) : 0 < loopCount i :=
  Nat.lt_of_lt_of_le Nat.one_pos (strictMono_loopCount.monotone (Nat.zero_le i))

theorem loopCount_lt_size {i : Nat} (h : i ≤ 21) : loopCount i < UInt64.size :=
  Nat.lt_of_le_of_lt (loopCount_le_maxLoops h) (by decide)

/-- The base that follows is within the bounds of a word as well. -/
theorem base_mul_ten_lt_size {i : Nat} (h : i ≤ 21) : (tried i).base * 10 < UInt64.size := by
  have hbase : (tried i).base ≤ maxLoops :=
    (LoopCount.base_le_value _).trans ((value_tried i).trans_le (loopCount_le_maxLoops h))
  exact Nat.lt_of_le_of_lt (Nat.mul_le_mul_right 10 hbase) (by decide)

end Timing

namespace Evaluator

open Timing

variable (ev : Evaluator σ)

/-- The answer to a request for a timing; there is none if the evaluator panicked. -/
def timing? (a : Asked σ) : Option (Except Failure Duration) :=
  match a.command with
  | .time code loops => (ev.timeStatements code loops.toNat a.before).1
  | _ => none

/-- A panic and a failure are passed on. -/
inductive PassedOn : Option (Except Failure α) → Option (Except Failure β) → Prop
  | panic : PassedOn none none
  | failure (f : Failure) : PassedOn (some (.error f)) (some (.error f))

/-- Timings of the code with the loop counts from a place of the sequence on, in this order, none of
which took long enough. -/
structure Dismissed (code : String) (i : Nat) (asked : List (Asked σ)) : Prop where
  commands : asked.map Asked.command
    = (List.range' i asked.length).map fun j => .time code (.ofNat (loopCount j))
  tooShort : ∀ a ∈ asked, ∃ elapsed, ev.timing? a = some (.ok elapsed) ∧ ¬target ≤ elapsed

/-- The search for a loop count, from a place of the sequence on, and what comes of it. -/
inductive Searched (code : String) (i : Nat) :
    List (Asked σ) → Option (Except Failure Nat) → Prop
  /-- The last timing failed. -/
  | stopped {dismissed : List (Asked σ)} {last : Asked σ} {result : Option (Except Failure Nat)} :
    i + dismissed.length ≤ 21 → ev.Dismissed code i dismissed →
    last.command = .time code (.ofNat (loopCount (i + dismissed.length))) →
    PassedOn (ev.timing? last) result → Searched code i (dismissed ++ [last]) result
  /-- The last timing took long enough, or there is no greater loop count. -/
  | found {dismissed : List (Asked σ)} {last : Asked σ} {elapsed : Duration} :
    i + dismissed.length ≤ 21 → ev.Dismissed code i dismissed →
    last.command = .time code (.ofNat (loopCount (i + dismissed.length))) →
    ev.timing? last = some (.ok elapsed) →
    (target ≤ elapsed ∨ loopCount (i + dismissed.length) = maxLoops) →
    Searched code i (dismissed ++ [last]) (some (.ok (loopCount (i + dismissed.length))))

/-- So many timings with one loop count, or fewer if one fails, and what comes of them. -/
inductive Repeated (code : String) (loops count : Nat) :
    List (Asked σ) → Option (Except Failure (List Duration)) → Prop
  /-- The last timing failed. -/
  | stopped {taken : List (Asked σ)} {last : Asked σ} {durations : List Duration}
      {result : Option (Except Failure (List Duration))} :
    taken.length < count → (∀ a ∈ taken ++ [last], a.command = .time code (.ofNat loops)) →
    taken.map ev.timing? = durations.map (fun elapsed => some (.ok elapsed)) →
    PassedOn (ev.timing? last) result → Repeated code loops count (taken ++ [last]) result
  | complete {taken : List (Asked σ)} {durations : List Duration} :
    taken.length = count → (∀ a ∈ taken, a.command = .time code (.ofNat loops)) →
    taken.map ev.timing? = durations.map (fun elapsed => some (.ok elapsed)) →
    Repeated code loops count taken (some (.ok durations))

/-- A timing run: the search for a loop count, then five measurements with it. The report is made of
their durations. -/
inductive Measured (code : String) : List (Asked σ) → Option (Except Failure Report) → Prop
  | unfound {searched : List (Asked σ)} {found : Option (Except Failure Nat)}
      {result : Option (Except Failure Report)} :
    ev.Searched code 0 searched found → PassedOn found result → Measured code searched result
  | unmeasured {searched repeated : List (Asked σ)} {loops : Nat}
      {durations : Option (Except Failure (List Duration))} {result : Option (Except Failure Report)} :
    ev.Searched code 0 searched (some (.ok loops)) → ev.Repeated code loops 5 repeated durations →
    PassedOn durations result → Measured code (searched ++ repeated) result
  | complete {searched repeated : List (Asked σ)} {loops : Nat} {durations : List Duration} :
    ev.Searched code 0 searched (some (.ok loops)) →
    ev.Repeated code loops 5 repeated (some (.ok durations)) →
    Measured code (searched ++ repeated) (some (.ok (.ofSamples durations loops)))

variable {ev}

/-! ## How long a record is -/

theorem Searched.length_le {code : String} {i : Nat} {asked : List (Asked σ)}
    {result : Option (Except Failure Nat)} (h : ev.Searched code i asked result) :
    i + asked.length ≤ 22 := by
  cases h with
  | stopped hplace | found hplace =>
    rw [List.length_append, List.length_singleton]
    omega

theorem Repeated.length_le {code : String} {loops count : Nat} {asked : List (Asked σ)}
    {result : Option (Except Failure (List Duration))} (h : ev.Repeated code loops count asked result) :
    asked.length ≤ count := by
  cases h with
  | stopped hlength =>
    rw [List.length_append, List.length_singleton]
    omega
  | complete hlength => exact hlength.le

theorem Measured.length_le {code : String} {asked : List (Asked σ)}
    {result : Option (Except Failure Report)} (h : ev.Measured code asked result) :
    asked.length ≤ 27 := by
  cases h with
  | unfound hsearched =>
    have hsearch := hsearched.length_le
    omega
  | unmeasured hsearched hrepeated | complete hsearched hrepeated =>
    have hsearch := hsearched.length_le
    have hrepeat := hrepeated.length_le
    rw [List.length_append]
    omega

theorem PassedOn.ne_ok {first : Option (Except Failure α)} {result : Option (Except Failure β)}
    (h : PassedOn first result) (b : β) : result ≠ some (.ok b) := by
  cases h <;> rintro ⟨⟩

/-- A loop count that was found is one of the sequence. -/
theorem Searched.exists_loopCount {code : String} {i : Nat} {asked : List (Asked σ)} {loops : Nat}
    (h : ev.Searched code i asked (some (.ok loops))) : ∃ j ≤ 21, loops = loopCount j := by
  cases h with
  | stopped _ _ _ hpassed => exact absurd rfl (hpassed.ne_ok loops)
  | found hplace => exact ⟨_, hplace, rfl⟩

/-! ## The record of a timing run -/

theorem timing?_time {loops : Nat} (h : loops < UInt64.size) (code : String) (s : σ) :
    ev.timing? ⟨.time code (.ofNat loops), s⟩ = (ev.timeStatements code loops s).1 := by
  have hsame : (UInt64.ofNat loops).toNat = loops := UInt64.toNat_ofNat_of_lt' h
  change (ev.timeStatements code (UInt64.ofNat loops).toNat s).1 = _
  rw [hsame]

/-- What is done for a first result, and after it if it is no failure. -/
inductive Then (P : List (Asked σ) → Option (Except Failure α) → Prop)
    (Q : α → List (Asked σ) → Option (Except Failure β) → Prop) :
    List (Asked σ) → Option (Except Failure β) → Prop
  | passedOn {asked : List (Asked σ)} {first : Option (Except Failure α)}
      {result : Option (Except Failure β)} :
    P asked first → PassedOn first result → Then P Q asked result
  | followed {earlier later : List (Asked σ)} {a : α} {result : Option (Except Failure β)} :
    P earlier (some (.ok a)) → Q a later result → Then P Q (earlier ++ later) result

theorem traces_then {P : List (Asked σ) → Option (Except Failure α) → Prop}
    {Q : α → List (Asked σ) → Option (Except Failure β) → Prop}
    {act' : Act (σ × List (Asked σ)) (Except Failure α)} {act : Act σ (Except Failure α)}
    {next' : Except Failure α → Act (σ × List (Asked σ)) (Except Failure β)}
    {next : Except Failure α → Act σ (Except Failure β)}
    (h : Traces Prod.mk (fun _ added r => P added r.1) act' act)
    (hok : ∀ earlier a, P earlier (some (.ok a)) →
      Traces Prod.mk (fun _ added r => Q a added r.1) (next' (.ok a)) (next (.ok a)))
    (herror : ∀ failure, next' (.error failure) = Pure.pure (.error failure) ∧
      next (.error failure) = Pure.pure (.error failure)) :
    Traces Prod.mk (fun _ added r => Then P Q added r.1) (act' >>= next') (act >>= next) := by
  refine h.bind_of_reached (Q := fun first _ later r => match first with
    | .ok a => Q a later r.1
    | .error failure => later = [] ∧ r.1 = some (.error failure)) (fun _ earlier first _ hP => ?_)
    (fun _ _ _ hP => .passedOn hP .panic) fun _ earlier first _ later r hP hQ => ?_
  · cases first with
    | ok a => exact hok earlier a hP
    | error failure =>
      rw [(herror failure).1, (herror failure).2]
      exact traces_pure fun _ => ⟨rfl, rfl⟩
  · cases first with
    | ok a => exact .followed hP hQ
    | error failure =>
      obtain ⟨rfl, hr⟩ := hQ
      rw [List.append_nil, hr]
      exact .passedOn hP (.failure failure)

/-- One request for a timing, and its answer. -/
def Timed (ev : Evaluator σ) (code : String) (loops : Nat) (asked : List (Asked σ))
    (answer : Option (Except Failure Duration)) : Prop :=
  ∃ a : Asked σ, asked = [a] ∧ a.command = .time code (.ofNat loops) ∧ ev.timing? a = answer

theorem traces_timed {loops : Nat} (h : loops < UInt64.size) (code : String) :
    Traces Prod.mk (fun _ added r => ev.Timed code loops added r.1)
      (ev.recorded.timeStatements code loops) (ev.timeStatements code loops) :=
  traces_recorded _ fun s => ⟨_, rfl, rfl, timing?_time h code s⟩

theorem Dismissed.nil (code : String) (i : Nat) : ev.Dismissed code i [] where
  commands := rfl
  tooShort _ h := by cases h

theorem Dismissed.cons {code : String} {i : Nat} {a : Asked σ} {asked : List (Asked σ)}
    {elapsed : Duration} (hcommand : a.command = .time code (.ofNat (loopCount i)))
    (hanswer : ev.timing? a = some (.ok elapsed)) (hshort : ¬target ≤ elapsed)
    (h : ev.Dismissed code (i + 1) asked) : ev.Dismissed code i (a :: asked) where
  commands := by
    rw [List.map_cons, List.length_cons, List.range'_succ, List.map_cons, hcommand, h.commands]
  tooShort := List.forall_mem_cons.mpr ⟨⟨elapsed, hanswer, hshort⟩, h.tooShort⟩

/-- A search goes on with the next place after a timing that did not take long enough. -/
theorem Searched.cons {code : String} {i : Nat} {a : Asked σ} {asked : List (Asked σ)}
    {elapsed : Duration} {result : Option (Except Failure Nat)}
    (hcommand : a.command = .time code (.ofNat (loopCount i)))
    (hanswer : ev.timing? a = some (.ok elapsed)) (hshort : ¬target ≤ elapsed)
    (h : ev.Searched code (i + 1) asked result) : ev.Searched code i (a :: asked) result := by
  have hplace (dismissed : List (Asked σ)) :
      i + 1 + dismissed.length = i + (a :: dismissed).length := by
    rw [List.length_cons]
    omega
  cases h with
  | stopped hle hdismissed hlast hpassed =>
    rw [hplace] at hle hlast
    exact .stopped hle (hdismissed.cons hcommand hanswer hshort) hlast hpassed
  | found hle hdismissed hlast hlong hend =>
    rw [hplace] at hle hlast hend ⊢
    exact .found hle (hdismissed.cons hcommand hanswer hshort) hlast hlong hend

/-- A search that is over with its first timing. -/
theorem Searched.of_found {code : String} {i : Nat} {a : Asked σ} {elapsed : Duration} (hi : i ≤ 21)
    (hcommand : a.command = .time code (.ofNat (loopCount i)))
    (hanswer : ev.timing? a = some (.ok elapsed))
    (hend : target ≤ elapsed ∨ loopCount i = maxLoops) :
    ev.Searched code i [a] (some (.ok (loopCount i))) :=
  @Searched.found _ _ _ _ [] _ _ hi (.nil code i) hcommand hanswer hend

theorem traces_searched (code : String) {i : Nat} (hi : i ≤ 21) :
    Traces Prod.mk (fun _ added r => ev.Searched code i added r.1)
      (firstLongEnough ev.recorded code (tried i)) (firstLongEnough ev code (tried i)) := by
  rw [firstLongEnough.eq_def ev.recorded, firstLongEnough.eq_def ev, value_tried]
  refine (traces_then (Q := fun elapsed added result =>
      if target ≤ elapsed ∨ maxLoops ≤ loopCount i then
        added = [] ∧ result = some (.ok (loopCount i))
      else ev.Searched code (i + 1) added result)
    (traces_timed (loopCount_lt_size hi) code) (fun _ elapsed _ => ?_) fun _ => ⟨rfl, rfl⟩).mono ?_
  · dsimp only
    by_cases hend : target ≤ elapsed ∨ maxLoops ≤ loopCount i
    · simp only [hend, dif_pos, if_true]
      exact traces_pure fun _ => ⟨rfl, rfl⟩
    · have hnext : i + 1 ≤ 21 := by
        have hplace := maxLoops_le_loopCount_iff.not.mp (not_or.mp hend).2
        omega
      simp only [hend, dif_neg, not_false_eq_true, if_false]
      exact traces_searched code hnext
  · rintro _ _ r hthen
    generalize r.1 = result at hthen
    cases hthen with
    | passedOn htimed hpassed =>
      obtain ⟨a, rfl, hcommand, hanswer⟩ := htimed
      exact @Searched.stopped _ _ _ _ [] _ _ hi (.nil code i) hcommand (hanswer ▸ hpassed)
    | @followed _ later elapsed _ htimed hlater =>
      obtain ⟨a, rfl, hcommand, hanswer⟩ := htimed
      split at hlater
      · next hend =>
        obtain ⟨rfl, rfl⟩ := hlater
        exact .of_found hi hcommand hanswer
          (hend.imp_right fun hmax => (loopCount_le_maxLoops hi).antisymm hmax)
      · next hend => exact hlater.cons hcommand hanswer (not_or.mp hend).1
termination_by 21 - i

/-- A measurement before others. -/
theorem Repeated.cons {code : String} {loops count : Nat} {a : Asked σ} {asked : List (Asked σ)}
    {elapsed : Duration} {rest : Option (Except Failure (List Duration))}
    (hcommand : a.command = .time code (.ofNat loops)) (hanswer : ev.timing? a = some (.ok elapsed))
    (h : ev.Repeated code loops count asked rest) :
    ev.Repeated code loops (count + 1) (a :: asked) (rest.map (·.map (elapsed :: ·))) := by
  cases h with
  | @stopped taken last durations _ hlength hcommands hdurations hpassed =>
    refine @Repeated.stopped _ _ _ _ _ (a :: taken) last (elapsed :: durations) _
      (Nat.succ_lt_succ hlength) (List.forall_mem_cons.mpr ⟨hcommand, hcommands⟩) ?_ ?_
    · rw [List.map_cons, List.map_cons, hanswer, hdurations]
    · generalize ev.timing? _ = answer at hpassed
      cases hpassed with
      | panic => exact .panic
      | failure f => exact .failure f
  | complete hlength hcommands hdurations =>
    refine .complete (congrArg (· + 1) hlength) (List.forall_mem_cons.mpr ⟨hcommand, hcommands⟩) ?_
    rw [List.map_cons, List.map_cons, hanswer, hdurations]

theorem traces_repeated {loops : Nat} (h : loops < UInt64.size) (code : String) (count : Nat) :
    Traces Prod.mk (fun _ added r => ev.Repeated code loops count added r.1)
      (samples ev.recorded code loops count) (samples ev code loops count) := by
  induction count with
  | zero => exact traces_pure fun _ => .complete rfl (fun _ h => by cases h) rfl
  | succ count ih =>
    refine (traces_then (Q := fun elapsed added result => ∃ rest,
        ev.Repeated code loops count added rest ∧ result = rest.map (·.map (elapsed :: ·)))
      (traces_timed h code) (fun _ elapsed _ => ?_) fun _ => ⟨rfl, rfl⟩).mono ?_
    · refine ih.bind (Q := fun rest _ later r => later = [] ∧
          r.1 = some (rest.map (elapsed :: ·))) (fun rest => ?_)
        (fun _ _ _ hrest => ⟨none, hrest, rfl⟩) fun _ earlier rest _ later r hrest hlater => ?_
      · cases rest <;> exact traces_pure fun _ => ⟨rfl, rfl⟩
      · obtain ⟨rfl, hr⟩ := hlater
        rw [List.append_nil]
        exact ⟨some rest, hrest, hr⟩
    · rintro _ _ r hthen
      generalize r.1 = result at hthen
      cases hthen with
      | passedOn htimed hpassed =>
        obtain ⟨a, rfl, hcommand, hanswer⟩ := htimed
        exact @Repeated.stopped _ _ _ _ _ [] a [] _ (Nat.succ_pos count)
          (List.forall_mem_singleton.mpr hcommand) rfl (hanswer ▸ hpassed)
      | followed htimed hlater =>
        obtain ⟨a, rfl, hcommand, hanswer⟩ := htimed
        obtain ⟨rest, hrest, rfl⟩ := hlater
        exact hrest.cons hcommand hanswer

theorem traces_measured (code : String) :
    Traces Prod.mk (fun _ added r => ev.Measured code added r.1) (measure ev.recorded code)
      (measure ev code) := by
  refine (traces_then (Q := fun loops => Then (ev.Repeated code loops 5) fun durations later result =>
      later = [] ∧ result = some (.ok (Report.ofSamples durations loops)))
    (traces_searched code (Nat.zero_le 21)) (fun _ loops hsearched => ?_) fun _ => ⟨rfl, rfl⟩).mono ?_
  · obtain ⟨j, hj, rfl⟩ := hsearched.exists_loopCount
    exact traces_then (traces_repeated (loopCount_lt_size hj) code repeats)
      (fun _ _ _ => traces_pure fun _ => ⟨rfl, rfl⟩) fun _ => ⟨rfl, rfl⟩
  · rintro _ _ r hthen
    generalize r.1 = result at hthen
    cases hthen with
    | passedOn hsearched hpassed => exact .unfound hsearched hpassed
    | followed hsearched hlater =>
      cases hlater with
      | passedOn hrepeated hpassed => exact .unmeasured hsearched hrepeated hpassed
      | followed hrepeated hreport =>
        obtain ⟨rfl, rfl⟩ := hreport
        rw [List.append_nil]
        exact .complete hsearched hrepeated

end Evaluator

end NotebookKernel
