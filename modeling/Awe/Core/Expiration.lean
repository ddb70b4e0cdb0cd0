import Mathlib.Tactic.NormNum
import Awe.Core.Store
import Awe.Lib.Decimal
import Mathlib.Algebra.Order.Ring.Int

namespace Awe
namespace Core
namespace Expiration

open Lib

/-!
# The expiration of a job

`SetExpiration` takes a number of minutes, hours or days and sets the time at
which the reaper may delete the job, once it is completed or deleted.  The
number has any number of digits, but the error of its conversion is dropped,
and the product with the unit is a `Duration`, 64-bit nanoseconds that wrap
around.  A number that is too large therefore gives some other time, possibly
one long past, and the reaper takes a completed job with such an expiration
the next time it looks.

Times are nanoseconds since the epoch, which `Time.Add` adds without a bound
for every `Duration`.  The database stores a time as whole milliseconds.
-/

/-- The units that `ExpireRegex` accepts. There are no others, and a text without one of them is
refused. -/
inductive TimeUnit where
  | minutes
  | hours
  | days
  deriving DecidableEq, Repr

namespace TimeUnit

def letter : TimeUnit -> UInt8
  | minutes => 77
  | hours => 72
  | days => 68

def ofLetter (byte : UInt8) : Option TimeUnit :=
  if byte = letter minutes then some minutes
  else if byte = letter hours then some hours
  else if byte = letter days then some days
  else none

/-- The length of a unit in nanoseconds. -/
def nanoseconds : TimeUnit -> Nat
  | minutes => 60 * 10 ^ 9
  | hours => 60 * 60 * 10 ^ 9
  | days => 24 * 60 * 60 * 10 ^ 9

end TimeUnit

/-- `ExpireRegex.FindStringSubmatch`: the digits and the unit, if the text is one or more
digits followed by a unit. -/
def findStringSubmatch (expire : Bytes) : Option (Bytes × TimeUnit) :=
  if expire.dropLast ≠ [] ∧ expire.dropLast.all Decimal.isDigit = true then
    (expire.getLast?.bind TimeUnit.ofLetter).map fun unit => (expire.dropLast, unit)
  else none

/-- What `strconv.Atoi` returns beside its error: a number out of range becomes the
largest one. -/
def atoi (digits : Bytes) : Int64 :=
  if Decimal.value digits < 2 ^ 63 then Int64.ofNat (Decimal.value digits) else Int64.maxValue

/-- `time.Minute` and `time.Hour`. -/
def minute : Int64 := 60000000000
def hour : Int64 := 3600000000000

/-- The `Duration` that is added to the current time. -/
def expireTime (expireNum : Int64) : TimeUnit -> Int64
  | .minutes => expireNum * minute
  | .hours => expireNum * hour
  | .days => (expireNum * 24) * hour

/-- The BSON date of a time. -/
def milliseconds (time : Int) : Int :=
  time / 10 ^ 6

/-- `time.Time{}`, the first of January of the year one. -/
def zeroTime : Int :=
  -62135596800 * 10 ^ 9

/-- What a job is to the reaper: its state, its expiration in memory and the one of its
document. -/
structure ExpiringJob where
  state : JobState
  expiration : Int
  document : Option Int
  deriving DecidableEq, Repr

/-- What the lock of the job and the update of its document answer; either may fail. -/
structure Outside where
  lock : Option Bytes
  dbUpdateJobFieldTime : Option Bytes

def setExpiration (outside : Outside) (currTime : Int) (job : ExpiringJob) (expire : Bytes) :
    Option Bytes × ExpiringJob :=
  match outside.lock with
  | some err => (some err, job)
  | none =>
      match findStringSubmatch expire with
      | none => (some (ascii "expiration format '" ++ expire ++ ascii "' is invalid"), job)
      | some (digits, unit) =>
          let newExpiration := currTime + (expireTime (atoi digits) unit).toInt
          match outside.dbUpdateJobFieldTime with
          | some err => (some err, job)
          | none => (none, { job with
              expiration := newExpiration, document := some (milliseconds newExpiration) })

/-- `getQuery`: whether the reaper deletes a job when it looks. -/
def getQuery (now : Int) (job : ExpiringJob) : Bool :=
  (job.state = .completed ∨ job.state = .deleted) &&
    job.document.any fun date => date ≠ milliseconds zeroTime && date < milliseconds now

theorem nanoseconds_pos (unit : TimeUnit) : 0 < unit.nanoseconds := by
  cases unit <;> decide

/-- The products wrap around, and only the whole product counts: the two multiplications
for days wrap as one does. -/
theorem expireTime_toInt (expireNum : Int64) (unit : TimeUnit) :
    (expireTime expireNum unit).toInt = (expireNum.toInt * unit.nanoseconds).bmod (2 ^ 64) := by
  cases unit with
  | minutes =>
      rw [expireTime, Int64.toInt_mul]
      rfl
  | hours =>
      rw [expireTime, Int64.toInt_mul]
      rfl
  | days =>
      have together : expireNum.toInt * (TimeUnit.nanoseconds .days : Int) = expireNum.toInt * 24 *
          hour.toInt := by
        rw [Int.mul_assoc]
        rfl
      rw [expireTime, Int64.toInt_mul, Int64.toInt_mul, Int.bmod_mul_bmod, together]
      rfl

theorem bmod_eq_self_iff (product : Nat) :
    (product : Int).bmod (2 ^ 64) = product ↔ product < 2 ^ 63 := by
  constructor
  · intro same
    have below : (product : Int).bmod (2 ^ 64) < (2 ^ 64 + 1) / 2 := Int.bmod_lt (by decide)
    omega
  · intro small
    exact Int.bmod_eq_of_le (by omega) (by omega)

/-- The duration is the one asked for if and only if that fits into 64 bits. -/
theorem expireTime_atoi_iff (digits : Bytes) (unit : TimeUnit) :
    (expireTime (atoi digits) unit).toInt = (Decimal.value digits * unit.nanoseconds : Nat) ↔
      Decimal.value digits * unit.nanoseconds < 2 ^ 63 := by
  by_cases fits : Decimal.value digits < 2 ^ 63
  · have number : (atoi digits).toInt = Decimal.value digits := by
      rw [atoi, if_pos fits]
      exact Int64.toInt_ofNat_of_lt fits
    rw [expireTime_toInt, number, <- bmod_eq_self_iff, Int.natCast_mul]
  · have large : 2 ^ 63 ≤ Decimal.value digits * unit.nanoseconds :=
      (Nat.le_of_not_lt fits).trans (Nat.le_mul_of_pos_right _ (nanoseconds_pos unit))
    have bounded := (expireTime (atoi digits) unit).toInt_lt
    refine iff_of_false (fun same => ?_) (Nat.not_lt.mpr large)
    rw [same] at bounded
    omega

/-! ## The expiration -/

/-- The job after its expiration was set to a time. -/
def ExpiringJob.expiringAt (job : ExpiringJob) (time : Int) : ExpiringJob :=
  { job with expiration := time, document := some (milliseconds time) }

/-- The call gives an error and leaves the job as it was, or the job expires exactly the given
number of units after the current time. The time is counted without a bound here, as the text has
it. -/
def Exact (outside : Outside) (currTime : Int) (job : ExpiringJob) (expire : Bytes) (number : Nat)
    (unit : TimeUnit) : Prop :=
  ((setExpiration outside currTime job expire).1.isSome = true ∧
      (setExpiration outside currTime job expire).2 = job) ∨
  setExpiration outside currTime job expire =
    (none, job.expiringAt (currTime + (number * unit.nanoseconds : Nat)))

/-- The job cannot be locked, or its document is not updated. -/
def Refused (outside : Outside) : Prop :=
  outside.lock.isSome = true ∨ outside.dbUpdateJobFieldTime.isSome = true

theorem setExpiration_invalid {expire : Bytes} (invalid : findStringSubmatch expire = none)
    (outside : Outside) (currTime : Int) (job : ExpiringJob) :
    (setExpiration outside currTime job expire).1.isSome = true ∧
      (setExpiration outside currTime job expire).2 = job := by
  unfold setExpiration
  cases outside.lock with
  | some err => exact ⟨rfl, rfl⟩
  | none =>
      simp only [invalid]
      exact ⟨rfl, trivial⟩

theorem setExpiration_refused {outside : Outside} {expire digits : Bytes} {unit : TimeUnit}
    (accepted : findStringSubmatch expire = some (digits, unit)) (refused : Refused outside)
    (currTime : Int) (job : ExpiringJob) :
    (setExpiration outside currTime job expire).1.isSome = true ∧
      (setExpiration outside currTime job expire).2 = job := by
  unfold setExpiration
  cases locked : outside.lock with
  | some err => exact ⟨rfl, rfl⟩
  | none =>
      rcases refused with failed | failed
      · rw [locked] at failed
        cases failed
      · rcases Option.isSome_iff_exists.mp failed with ⟨err, update⟩
        simp only [accepted, update]
        exact ⟨rfl, trivial⟩

theorem setExpiration_done {outside : Outside} {expire digits : Bytes} {unit : TimeUnit}
    (accepted : findStringSubmatch expire = some (digits, unit)) (done : ¬ Refused outside)
    (currTime : Int) (job : ExpiringJob) :
    setExpiration outside currTime job expire =
      (none, job.expiringAt (currTime + (expireTime (atoi digits) unit).toInt)) := by
  rw [Refused, not_or, Option.not_isSome_iff_eq_none, Option.not_isSome_iff_eq_none] at done
  unfold setExpiration
  rw [done.1]
  simp only [accepted, done.2]
  rfl

/-- The reaper takes a job only after its expiration. -/
theorem lt_of_getQuery {now time : Int} {job : ExpiringJob}
    (selected : getQuery now (job.expiringAt time) = true) :
    time < now := by
  unfold getQuery ExpiringJob.expiringAt at selected
  rw [Bool.and_eq_true, Option.any_some, Bool.and_eq_true, decide_eq_true_iff (p := _ < _)]
      at selected
  have earlier : milliseconds time < milliseconds now := selected.2.2
  unfold milliseconds at earlier
  omega

/-- For every accepted text, the expiration is exact, or refused without a change, if and only if
the duration fits into 64 bits or the call is refused; and then a job that expires is not taken by
the reaper before the time asked for, which is not before the current time.

The number is multiplied by its unit in 64 bits, which wrap around, and the time in the past that
comes out is just what the reaper looks for. -/
theorem expiration_exact_iff (outside : Outside) (currTime : Int) (job : ExpiringJob)
    (expire digits : Bytes) (unit : TimeUnit)
    (accepted : findStringSubmatch expire = some (digits, unit)) :
    (Exact outside currTime job expire (Decimal.value digits) unit ↔
      Decimal.value digits * unit.nanoseconds < 2 ^ 63 ∨ Refused outside) ∧
    (Decimal.value digits * unit.nanoseconds < 2 ^ 63 ->
        (setExpiration outside currTime job expire).1 = none ->
      currTime ≤ (setExpiration outside currTime job expire).2.expiration ∧
      forall now, getQuery now (setExpiration outside currTime job expire).2 = true ->
        currTime + (Decimal.value digits * unit.nanoseconds : Nat) < now) := by
  by_cases refused : Refused outside
  · have unchanged := setExpiration_refused accepted refused currTime job
    refine ⟨iff_of_true (Or.inl unchanged) (Or.inr refused), fun _ done => ?_⟩
    rw [done] at unchanged
    cases unchanged.1
  · have set := setExpiration_done accepted refused currTime job
    have exact_iff : Exact outside currTime job expire (Decimal.value digits) unit ↔
        Decimal.value digits * unit.nanoseconds < 2 ^ 63 := by
      rw [<- expireTime_atoi_iff, Exact, set]
      constructor
      · rintro (failed | equal)
        · cases failed.1
        · exact Int.add_left_cancel (congrArg (fun outcome => outcome.2.expiration) equal)
      · intro same
        rw [same]
        exact Or.inr rfl
    refine ⟨exact_iff.trans (or_iff_left refused).symm, fun small _ => ?_⟩
    rw [set, (expireTime_atoi_iff digits unit).mpr small]
    refine ⟨?_, fun now selected => lt_of_getQuery selected⟩
    change currTime ≤ currTime + _
    omega

/-- A completed job, and a database that answers. -/
private def completedJob : ExpiringJob :=
  ⟨.completed, zeroTime, some (milliseconds zeroTime)⟩

private def answering : Outside :=
  ⟨none, none⟩

/-- Thirty days are thirty days. -/
theorem thirty_days_exact :
    Exact answering 0 completedJob (ascii "30D") 30 .days ∧
      0 ≤ (setExpiration answering 0 completedJob (ascii "30D")).2.expiration := by
  have exact_iff := expiration_exact_iff answering 0 completedJob (ascii "30D")
      (ascii "30") .days (by decide)
  exact ⟨exact_iff.1.mpr (Or.inl (by decide)), (exact_iff.2 (by decide) rfl).1⟩

/-- The least number of days that is too long, about 292 years: the expiration is as long
in the past, and the reaper takes the job at once. -/
theorem long_expiration_reaped :
    Not (forall (outside : Outside) (currTime : Int) (job : ExpiringJob) (expire digits : Bytes)
        (unit : TimeUnit),
      findStringSubmatch expire = some (digits, unit) ->
        Exact outside currTime job expire (Decimal.value digits) unit) ∧
    getQuery 0 (setExpiration answering 0 completedJob (ascii "106752D")).2 = true := by
  refine ⟨fun all => ?_, by decide⟩
  have wrong := all answering 0 completedJob (ascii "106752D") (ascii "106752") .days (by decide)
  rcases wrong with failed | equal
  · cases failed.1
  · exact absurd equal (by decide)

end Expiration
end Core
end Awe
