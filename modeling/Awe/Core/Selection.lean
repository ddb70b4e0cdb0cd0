import Awe.Core.CheckoutAccounting

namespace Awe
namespace Core

open Lib Checkout

/-!
# Which workunits a client is given

`popWorks` filters the queue for what a client may compute, sorts the rest by
priority and submission, and takes the first ones that it finds small enough.
Written as one list, it takes a prefix of the sorted workunits that pass; that
the list is ordered, and that nothing better is left behind, follows from this.
The sizes of the inputs are added up as machine integers.  A sum that leaves
them comes back from the other end, and a workunit that is far too large may be
taken for a small one.

The workunits are then marked, and here something is lost.  `popWorks` writes
the name of the client before it calls `StatusChange`, which clears the name of
every workunit that is neither checked out nor reserved, and a workunit of the
queue is neither.  What has just been handed out belongs to nobody until the
handler of the request writes the name again.
-/

namespace CQMgr

section

variable (qm : CQMgr) (client : Client) (available : Int)

/-- A workunit is small enough for the client. A negative number means that the client does not
say how much it can hold. -/
def Fits (ptr : Nat) : Prop :=
  available < 0 ∨ available > (qm.workQueue.work ptr).inputs.sum

instance (ptr : Nat) : Decidable (Fits qm available ptr) :=
  inferInstanceAs (Decidable (_ ∨ _))

/-- The test of `selectWorkunits`, on the sum that has wrapped around. It differs from fitting
only where the sum leaves the range of 64 bits. -/
def Passes (ptr : Nat) : Prop :=
  available < 0 ∨ available > (qm.workQueue.work ptr).inputSize

instance (ptr : Nat) : Decidable (Passes qm available ptr) :=
  inferInstanceAs (Decidable (_ ∨ _))

/-- The sum leaves the machine integers, and what comes back lies on the other side of what the
client has available. Go adds the sizes in `int64`. A sum that wraps only matters if it changes
the answer of the comparison with what the client has left. -/
def Overflows (ptr : Nat) : Prop :=
  ¬(Passes qm available ptr ↔ Fits qm available ptr)

/-- A workunit is eligible for the client, and it fits. -/
def Qualifies (ptr : Nat) : Prop :=
  eligible client (qm.workQueue.work ptr) = some true ∧ Fits qm available ptr

/-- What a list of workunits must be to be given to a client. The last part is what a choice by
the order means: none is left out that comes before one that is in. -/
structure Selection (count : Nat) (listing works : List Nat) : Prop where
  some : works ≠ []
  short : works.length ≤ count
  distinct : works.Nodup
  qualified : forall ptr, ptr ∈ works -> ptr ∈ listing ∧ Qualifies qm client available ptr
  ordered : works.Pairwise fun earlier later =>
    precedes (qm.workQueue.work later) (qm.workQueue.work earlier) = false
  best : forall outside, outside ∈ listing -> Qualifies qm client available outside ->
      outside ∉ works ->
    forall inside, inside ∈ works ->
      precedes (qm.workQueue.work outside) (qm.workQueue.work inside) = false

end

/-- The first `count` workunits of the queue that are eligible and pass, in the order of the sort.
-/
def chosen (qm : CQMgr) (client : Client) (available : Int) (count : Nat) (listing : List Nat) :
    List Nat :=
  (((listing.filter fun ptr => eligible client (qm.workQueue.work ptr) = some true).insertionSort
    fun first second => ¬precedes (qm.workQueue.work second) (qm.workQueue.work first)).filter
      fun ptr => Passes qm available ptr).take count

/-- A workunit of the queue whose state is not that of a queued one: it is reserved, or it is
checked out already. Such workunits should not be in the queue at all; they are the only ones
whose `Client` survives the change of status. -/
def Claimed (qm : CQMgr) (ptr : Nat) : Prop :=
  (qm.workQueue.work ptr).state = workStatReserved ∨
    ((qm.workQueue.work ptr).state = workStatCheckout ∧
      qm.workQueue.checkout.lookup (qm.workQueue.work ptr).ident = some ptr)

/-- No eligible workunit whose sum overflows stands before the given one in the order of the sort,
nor is it the given one itself. -/
def Unspoilt (qm : CQMgr) (client : Client) (available : Int) (listing : List Nat) (work : Nat) :
    Prop :=
  forall other, other ∈ listing -> eligible client (qm.workQueue.work other) = some true ->
    Overflows qm available other -> other ≠ work ∧ precedes (qm.workQueue.work other)
        (qm.workQueue.work work) = false

/-- The given workunits are checked out, and everything else is as before. The client is written
before the status is changed, and the change of status clears the client of a workunit that is
neither reserved nor checked out yet. -/
structure CheckedOut (before after : CQMgr) (works : List Nat) : Prop where
  filed : forall ptr, ptr ∈ works ->
    after.workQueue.checkout.lookup (before.workQueue.work ptr).ident = some ptr
  state : forall ptr, ptr ∈ works -> (after.workQueue.work ptr).state = workStatCheckout
  others : forall ptr, ptr ∉ works -> after.workQueue.work ptr = before.workQueue.work ptr
  entries : forall id, (forall ptr, ptr ∈ works -> (before.workQueue.work ptr).ident ≠ id) ->
    forall kind, (after.workQueue.sub kind).lookup id = (before.workQueue.sub kind).lookup id

/-- `popWorks` answers; what it gives is a selection that is checked out for the client, and if
nothing qualifies it returns an error and changes nothing. `listing` is the order in which this
run visits the queue, which is a Go map. -/
def GivesOut (qm : CQMgr) (client : Client) (req : CheckoutRequest) (listing : List Nat) : Prop :=
  Exists fun after => Exists fun outcome => qm.popWorks req listing = some (after, outcome) ∧
    (forall works, outcome = .ok works ->
      Selection qm client req.available req.count listing works ∧ CheckedOut qm after works ∧
        forall ptr, ptr ∈ works -> (after.workQueue.work ptr).client = req.fromclient) ∧
      ((forall ptr, ptr ∈ listing -> ¬Qualifies qm client req.available ptr) ->
        (Exists fun err => outcome = .error err) ∧ after = qm)

section

variable {qm : CQMgr} {client : Client}

theorem filterWorkunits_eq_some {listing fitting : List Nat}
    (filtered : filterWorkunits qm client listing = some fitting) :
    fitting = listing.filter (fun ptr => eligible client (qm.workQueue.work ptr) = some true) ∧
      forall ptr, ptr ∈ listing -> eligible client (qm.workQueue.work ptr) ≠ none := by
  induction listing generalizing fitting with
  | nil =>
      cases filtered
      exact ⟨rfl, nofun⟩
  | cons ptr rest inductionHypothesis =>
      simp only [filterWorkunits, Option.pure_def, Option.bind_eq_bind, Option.bind_eq_some_iff,
        Option.some.injEq] at filtered
      rcases filtered with ⟨fits, asked, others, later, rfl⟩
      rcases inductionHypothesis later with ⟨same, known⟩
      refine ⟨?_, List.forall_mem_cons.mpr ⟨by rw [asked]; exact Option.some_ne_none _, known⟩⟩
      rw [List.filter_cons, asked, same]
      cases fits <;> rfl

theorem filterWorkunits_eq_none {listing : List Nat}
    (filtered : filterWorkunits qm client listing = none) :
    Exists fun ptr => ptr ∈ listing ∧ eligible client (qm.workQueue.work ptr) = none := by
  induction listing with
  | nil => cases filtered
  | cons ptr rest inductionHypothesis =>
      cases asked : eligible client (qm.workQueue.work ptr) with
      | none => exact ⟨ptr, List.mem_cons_self, asked⟩
      | some fits =>
          cases later : filterWorkunits qm client rest with
          | none =>
              rcases inductionHypothesis later with ⟨other, member, broken⟩
              exact ⟨other, List.mem_cons_of_mem _ member, broken⟩
          | some others => simp [filterWorkunits, asked, later] at filtered

/-! ## The order -/

/-- What the order looks at. -/
def key (qm : CQMgr) (ptr : Nat) : Int × Int :=
  match (qm.workQueue.work ptr).info with
  | some info => (info.priority, info.submitTime)
  | none => (0, 0)

/-- The order of the sort, for any two workunits. -/
def before (qm : CQMgr) (first second : Nat) : Prop :=
  (key qm first).1 > (key qm second).1 ∨
    ((key qm first).1 = (key qm second).1 ∧ (key qm first).2 ≤ (key qm second).2)

instance (qm : CQMgr) (first second : Nat) : Decidable (before qm first second) :=
  inferInstanceAs (Decidable (_ ∨ _))

instance (qm : CQMgr) : Std.Total (before qm) where
  total first second := by
    unfold before
    omega

instance (qm : CQMgr) : IsTrans Nat (before qm) where
  trans first second third := by
    unfold before
    omega

/-- An eligible workunit has its information. -/
theorem info_of_eligible {ptr : Nat} (asked : eligible client (qm.workQueue.work ptr) = some true) :
    Exists fun info => (qm.workQueue.work ptr).info = some info := by
  unfold eligible at asked
  split at asked
  · cases asked
  · cases known : (qm.workQueue.work ptr).info with
    | some info => exact ⟨info, rfl⟩
    | none => simp [known] at asked

theorem precedes_eq_false_iff {first second : Nat}
    (one : eligible client (qm.workQueue.work first) = some true)
    (other : eligible client (qm.workQueue.work second) = some true) :
    precedes (qm.workQueue.work second) (qm.workQueue.work first) = false ↔
    before qm first second := by
  rcases info_of_eligible one with ⟨left, oneKnown⟩
  rcases info_of_eligible other with ⟨right, otherKnown⟩
  simp only [precedes, before, key, oneKnown, otherKnown, decide_eq_false_iff_not]
  omega

/-- The loop takes the first workunits that fit. -/
theorem takeFitting_eq (available : Int) (count : Nat) (ordered : List Nat) :
    takeFitting qm available count ordered = (ordered.filter fun ptr =>
        Passes qm available ptr).take count := by
  induction ordered generalizing count with
  | nil => cases count <;> rfl
  | cons ptr rest inductionHypothesis =>
      cases count with
      | zero => rfl
      | succ count =>
          rw [takeFitting, List.filter_cons]
          by_cases passes : Passes qm available ptr
          · have small : available < 0 ∨ available > (qm.workQueue.work ptr).inputSize := passes
            rw [if_pos small, if_pos (decide_eq_true passes), List.take_succ_cons,
                inductionHypothesis]
          · have large : ¬(available < 0 ∨ available > (qm.workQueue.work ptr).inputSize) := passes
            rw [if_neg large, if_neg (by simpa using passes), inductionHypothesis]

section

variable {available : Int} {count : Nat} {listing : List Nat}

/-- The workunits that qualify, sorted by what the order looks at. -/
theorem sorted_eq (eligibles : List Nat)
    (asked : forall ptr, ptr ∈ eligibles -> eligible client (qm.workQueue.work ptr) = some true) :
    (eligibles.insertionSort fun first second => ¬precedes (qm.workQueue.work second)
        (qm.workQueue.work first)) =
      eligibles.insertionSort (before qm) := by
  have agree := List.map_insertionSort (fun first second =>
    ¬precedes (qm.workQueue.work second) (qm.workQueue.work first)) (before qm) id eligibles ?_
  · simpa only [List.map_id_fun, id] using agree
  · intro first one second other
    simpa only [Bool.not_eq_true, id] using precedes_eq_false_iff (asked first one)
        (asked second other)

/-- `selectWorkunits` picks the chosen ones out of the eligible ones. -/
theorem selectWorkunits_eq :
    selectWorkunits qm (listing.filter fun ptr => eligible client (qm.workQueue.work ptr) =
        some true) "FCFS" available count =
      if chosen qm client available count listing = [] then .error noEligibleWorkunitFound
      else .ok (chosen qm client available count listing) := by
  simp only [selectWorkunits, if_true, takeFitting_eq]
  rfl

/-- What is known of the chosen workunits, whatever the sums are: they are the
best of those that pass. -/
structure Chosen (qm : CQMgr) (client : Client) (available : Int) (count : Nat)
    (listing works : List Nat) :
    Prop where
  short : works.length ≤ count
  distinct : works.Nodup
  passed : forall ptr, ptr ∈ works ->
    ptr ∈ listing ∧ eligible client (qm.workQueue.work ptr) = some true ∧ Passes qm available ptr
  ordered : works.Pairwise fun earlier later =>
    precedes (qm.workQueue.work later) (qm.workQueue.work earlier) = false
  best : forall outside, outside ∈ listing ->
      eligible client (qm.workQueue.work outside) = some true ->
    Passes qm available outside -> outside ∉ works -> forall inside, inside ∈ works ->
      precedes (qm.workQueue.work outside) (qm.workQueue.work inside) = false

theorem chosen_best (once : listing.Nodup) :
    Chosen qm client available count listing (chosen qm client available count listing) := by
  have asked {ptr : Nat} (member : ptr ∈ listing.filter fun ptr =>
      eligible client (qm.workQueue.work ptr) = some true) :
      eligible client (qm.workQueue.work ptr) = some true :=
          of_decide_eq_true (List.mem_filter.mp member).2
  unfold chosen
  generalize filtered :
      (listing.filter fun ptr => eligible client (qm.workQueue.work ptr) = some true) = eligibles
    at asked ⊢
  rw [sorted_eq eligibles fun ptr => asked]
  generalize candidates : (eligibles.insertionSort (before qm)).filter
      (fun ptr => Passes qm available ptr) = passing
  have chain : passing.Pairwise (before qm) := by
    rw [<- candidates]
    exact (List.pairwise_insertionSort _ eligibles).filter _
  have listed (ptr : Nat) : ptr ∈ passing ↔
      ptr ∈ listing ∧ eligible client (qm.workQueue.work ptr) = some true ∧
          Passes qm available ptr := by
    rw [<- candidates, List.mem_filter, List.mem_insertionSort, <- filtered, List.mem_filter]
    simp only [decide_eq_true_eq, and_assoc]
  have distinct : passing.Nodup := by
    rw [<- candidates, <- filtered]
    exact ((List.perm_insertionSort _ _).nodup_iff.mpr (once.filter _)).filter _
  have inside {ptr : Nat} (member : ptr ∈ passing.take count) : ptr ∈ passing :=
      List.mem_of_mem_take member
  have compare {first second : Nat} (one : first ∈ passing) (other : second ∈ passing) :=
    precedes_eq_false_iff ((listed first).mp one).2.1 ((listed second).mp other).2.1
  refine ⟨List.length_take_le _ _, distinct.sublist (List.take_sublist _ _),
    fun ptr member => (listed ptr).mp (inside member), ?_, ?_⟩
  · exact (chain.sublist (List.take_sublist _ _)).imp_of_mem fun one other earlier =>
      (compare (inside one) (inside other)).mpr earlier
  · intro outside member eligible passes missed ptr given
    have later : outside ∈ passing := (listed outside).mpr ⟨member, eligible, passes⟩
    rw [<- List.take_append_drop count passing, List.mem_append] at later
    have behind := later.resolve_left missed
    have split := chain
    rw [<- List.take_append_drop count passing, List.pairwise_append] at split
    exact (compare (inside given) (List.mem_of_mem_drop behind)).mpr
        (split.2.2 ptr given outside behind)

/-- The best of those that pass are a selection exactly if no overflow has come in between. -/
theorem Chosen.selection_iff {works : List Nat}
    (best : Chosen qm client available count listing works) (found : works ≠ []) :
    Selection qm client available count listing works ↔
      forall work, work ∈ works -> Unspoilt qm client available listing work := by
  constructor
  · intro selection work member other listed eligible overflows
    have unfit (given : other ∈ works) : False :=
      overflows (iff_of_true (best.passed other given).2.2 (selection.qualified other given).2.2)
    refine ⟨fun same => unfit (same ▸ member), ?_⟩
    by_cases fits : Fits qm available other
    · exact selection.best other listed ⟨eligible, fits⟩ unfit work member
    · have passes : Passes qm available other := by
        by_contra fails
        exact overflows (iff_of_false fails fits)
      exact best.best other listed eligible passes unfit work member
  · intro unspoilt
    refine ⟨found, best.short, best.distinct, fun work member => ?_, best.ordered, ?_⟩
    · rcases best.passed work member with ⟨listed, eligible, passes⟩
      refine ⟨listed, eligible, ?_⟩
      by_contra large
      exact (unspoilt work member work listed eligible fun same => large (same.mp passes)).1 rfl
    · intro outside listed qualifies missed inside member
      by_cases passes : Passes qm available outside
      · exact best.best outside listed qualifies.1 passes missed inside member
      · exact (unspoilt inside member outside listed qualifies.1 fun same =>
          passes (same.mpr qualifies.2)).2

/-- A sum that stays within 64 bits is the sum. -/
theorem inputSize_eq_sum {work : Workunit} (low : -2 ^ 63 ≤ work.inputs.sum)
    (high : work.inputs.sum < 2 ^ 63) :
    work.inputSize = work.inputs.sum := by
  have added (inputs : List Int) (start : Int64) :
      inputs.foldl (fun (size : Int64) input => size + Int64.ofInt input) start =
          start + Int64.ofInt inputs.sum := by
    induction inputs generalizing start with
    | nil => exact (Int64.add_zero start).symm
    | cons input rest inductionHypothesis =>
        rw [List.foldl_cons, inductionHypothesis, List.sum_cons, Int64.ofInt_add, Int64.add_assoc]
  unfold Workunit.inputSize
  rw [added, Int64.zero_add, Int64.toInt_ofInt_of_le low high]

/-- Input sizes whose sum fits into 64 bits are added without wrapping, whatever is reached on the
way. -/
theorem not_overflows {ptr : Nat} (low : -2 ^ 63 ≤ (qm.workQueue.work ptr).inputs.sum)
    (high : (qm.workQueue.work ptr).inputs.sum < 2 ^ 63) : ¬Overflows qm available ptr := by
  intro overflows
  apply overflows
  unfold Passes Fits
  rw [inputSize_eq_sum low high]

end

/-! ## What is written -/

/-- What handing out does to a workunit and to the maps.  A workunit that is neither
checked out nor reserved loses the name it was given. -/
theorem handOut_effect (clientID : String) (ptr : Nat) :
    ((handOut clientID qm ptr).workQueue.work ptr).state = workStatCheckout ∧
      ((handOut clientID qm ptr).workQueue.work ptr).client =
        (if (qm.workQueue.work ptr).state ≠ workStatCheckout ∧
        (qm.workQueue.work ptr).state ≠ workStatReserved
          then "" else clientID) ∧
        forall id kind, ((handOut clientID qm ptr).workQueue.sub kind).lookup id =
          if id = (qm.workQueue.work ptr).ident ∧ (qm.workQueue.work ptr).state ≠ workStatCheckout
          then (if kind = .checkout then some ptr else none) else
              (qm.workQueue.sub kind).lookup id := by
  have unchanged : ((qm.workQueue.modify ptr fun work => work.withClient clientID).work ptr) =
      (qm.workQueue.work ptr).withClient clientID := WorkQueue.modify_work_self
  have handed : (handOut clientID qm ptr).workQueue =
      ((qm.workQueue.modify ptr fun work => work.withClient clientID).moveTo
        ((qm.workQueue.modify ptr fun work => work.withClient clientID).work ptr).ident ptr
        workStatCheckout "").1 := rfl
  rw [handed, WorkQueue.moveTo_eq, unchanged]
  by_cases already : (qm.workQueue.work ptr).state = workStatCheckout
  · have same : ((qm.workQueue.work ptr).withClient clientID).state = workStatCheckout := already
    rw [if_pos same]
    refine ⟨by rw [unchanged]; exact same, ?_, ?_⟩
    · rw [unchanged, if_neg (fun differs => differs.1 already)]
      rfl
    · intro id kind
      rw [if_neg (fun differs => differs.2 already)]
      cases kind <;> rfl
  · have differs : ((qm.workQueue.work ptr).withClient clientID).state ≠ workStatCheckout := already
    have accepted : ¬WorkQueue.Refused workStatCheckout "" := by decide
    rw [if_neg differs, if_neg accepted]
    refine ⟨?_, ?_, ?_⟩
    · simp only [WorkQueue.placed, Function.update_self]
      exact WorkQueue.relabelled_state _ (by decide)
    · simp only [WorkQueue.placed, Function.update_self, unchanged, WorkQueue.relabelled]
      by_cases reserved : (qm.workQueue.work ptr).state = workStatReserved
      · have held : ¬(((qm.workQueue.work ptr).withClient clientID).state ≠ workStatCheckout ∧
            ((qm.workQueue.work ptr).withClient clientID).state ≠ workStatReserved) :=
                fun both => both.2 reserved
        rw [if_neg held, if_neg (fun both => both.2 reserved)]
        rfl
      · have unheld : ((qm.workQueue.work ptr).withClient clientID).state ≠ workStatCheckout ∧
            ((qm.workQueue.work ptr).withClient clientID).state ≠ workStatReserved :=
                ⟨already, reserved⟩
        rw [if_pos unheld, if_pos ⟨already, reserved⟩]
        rfl
    · intro id kind
      rw [WorkQueue.placed_sub_lookup]
      simp only [ne_eq, already, not_false_eq_true, and_true]
      cases kind <;> rfl

/-- What handing out a list of workunits does. A workunit from the queue comes out without the
name of its client, which the change of state erases. -/
structure Handed (clientID : String) (before after : CQMgr) (works : List Nat) : Prop where
  state : forall ptr, ptr ∈ works -> (after.workQueue.work ptr).state = workStatCheckout
  client : forall ptr, ptr ∈ works -> (after.workQueue.work ptr).client =
    if (before.workQueue.work ptr).state ≠ workStatCheckout ∧
        (before.workQueue.work ptr).state ≠ workStatReserved
    then "" else clientID
  filed : forall ptr, ptr ∈ works ->
      after.workQueue.checkout.lookup (before.workQueue.work ptr).ident =
    if (before.workQueue.work ptr).state ≠ workStatCheckout then some ptr
    else before.workQueue.checkout.lookup (before.workQueue.work ptr).ident
  others : forall ptr, ptr ∉ works -> after.workQueue.work ptr = before.workQueue.work ptr
  entries : forall id, (forall ptr, ptr ∈ works -> (before.workQueue.work ptr).ident ≠ id) ->
    forall kind, (after.workQueue.sub kind).lookup id = (before.workQueue.sub kind).lookup id

/-- A list of different workunits of the queue that is handed out. -/
theorem handed_foldl (clientID : String) {works : List Nat} (ok : QueueOk qm.workQueue)
    (once : works.Nodup)
    (found : forall ptr, ptr ∈ works ->
    qm.workQueue.all.lookup (qm.workQueue.work ptr).ident = some ptr) :
    Handed clientID qm (works.foldl (handOut clientID) qm) works := by
  induction works generalizing qm with
  | nil => exact ⟨nofun, nofun, nofun, fun _ _ => rfl, fun _ _ _ => rfl⟩
  | cons first rest inductionHypothesis =>
      rw [List.nodup_cons] at once
      rw [List.forall_mem_cons] at found
      have head := handsOut_handOut ok clientID found.1
      rcases @handOut_effect qm clientID first with ⟨state, client, entries⟩
      have kept (ptr : Nat) (member : ptr ∈ rest) :
          (handOut clientID qm first).workQueue.work ptr = qm.workQueue.work ptr := by
        apply head.others
        intro same
        rw [List.mem_singleton.mp same] at member
        exact once.1 member
      have tail := inductionHypothesis head.ok once.2
        (fun ptr member => by rw [head.all, head.ident]; exact found.2 ptr member)
      have untouched := tail.others first once.1
      -- no later workunit has the identifier of the first
      have apart (ptr : Nat) (member : ptr ∈ rest) :
          (qm.workQueue.work ptr).ident ≠ (qm.workQueue.work first).ident := by
        intro same
        have twice := found.2 ptr member
        rw [same, found.1] at twice
        rw [Option.some.inj twice] at once
        exact once.1 member
      have apartAfter (ptr : Nat) (member : ptr ∈ rest) :
          ((handOut clientID qm first).workQueue.work ptr).ident ≠
              (qm.workQueue.work first).ident := by
        rw [head.ident]
        exact apart ptr member
      simp only [List.foldl_cons]
      refine ⟨?_, ?_, ?_, ?_, ?_⟩
      · rw [List.forall_mem_cons, untouched]
        exact ⟨state, tail.state⟩
      · rw [List.forall_mem_cons, untouched]
        refine ⟨client, fun ptr member => ?_⟩
        rw [tail.client ptr member, kept ptr member]
      · rw [List.forall_mem_cons]
        constructor
        · refine (tail.entries _ apartAfter .checkout).trans ((entries _ .checkout).trans ?_)
          by_cases already : (qm.workQueue.work first).state = workStatCheckout
          · rw [if_neg (fun differs => differs.2 already), if_neg (fun differs => differs already)]
            rfl
          · rw [if_pos ⟨rfl, already⟩, if_pos already, if_pos rfl]
        · intro ptr member
          have later := tail.filed ptr member
          rw [kept ptr member] at later
          rw [later]
          have before := entries (qm.workQueue.work ptr).ident .checkout
          rw [if_neg (fun same => apart ptr member same.1)] at before
          exact congrArg (fun left => if (qm.workQueue.work ptr).state ≠ workStatCheckout then
              some ptr else left) before
      · intro ptr outside
        rw [List.mem_cons, not_or] at outside
        rw [tail.others ptr outside.2, head.others ptr (by simpa using outside.1)]
      · intro id different kind
        rw [List.forall_mem_cons] at different
        rw [tail.entries id (fun ptr member => by rw [head.ident]; exact different.2 ptr member)
            kind,
          entries, if_neg (fun same => different.1 same.1.symm)]

/-! ## The whole of `popWorks` -/

/-- A workunit is in the queue once. -/
theorem listing_nodup (ok : QueueOk qm.workQueue) {listing : List Nat}
    (visited : GoMap.Listing qm.workQueue.queue listing) : listing.Nodup := by
  rw [visited.nodup_iff]
  unfold GoMap.values
  refine List.Nodup.map_on ?_ qm.workQueue.queue.nodupKeys.nodup
  rintro ⟨one, ptr⟩ member ⟨other, same⟩ memberOther equal
  dsimp only at equal
  subst equal
  have first := (ok.queue one ptr (AList.mem_lookup_iff.mpr member)).1
  have second := (ok.queue other ptr (AList.mem_lookup_iff.mpr memberOther)).1
  rw [ok.stored.injective first second]

section

variable {req : CheckoutRequest} {listing : List Nat} {ptr : Nat}

/-- A client without a name is refused. -/
theorem popWorks_anonymous (known : qm.clientMap.lookup req.fromclient = some ptr)
    (named : (qm.client ptr).id = req.fromclient) (anonymous : req.fromclient = "") :
    qm.popWorks req listing =
      some (qm, .error "(popWorks) filterWorkByClient returned: (filterWorkByClient) clientid empty") := by
  simp only [popWorks, known, filterWorkByClient, named, anonymous, if_true]
  rfl

/-- The filter of `popWorks` reads the workunits it visits. -/
theorem popWorks_eq_none (known : qm.clientMap.lookup req.fromclient = some ptr)
    (named : (qm.client ptr).id ≠ "") {work : Nat} (member : work ∈ listing)
    (broken : eligible (qm.client ptr) (qm.workQueue.work work) = none) :
    qm.popWorks req listing = none := by
  have visits : listing ≠ [] := List.ne_nil_of_mem member
  cases filtered : filterWorkunits qm (qm.client ptr) listing with
  | none => simp only [popWorks, known, filterWorkByClient, if_neg named, if_neg visits, filtered,
      Option.map_none]
  | some fitting => exact ((filterWorkunits_eq_some filtered).2 work member broken).elim

/-- Otherwise the chosen workunits are handed out, or there are none. -/
theorem popWorks_eq (known : qm.clientMap.lookup req.fromclient = some ptr)
    (named : (qm.client ptr).id ≠ "") (fcfs : req.policy = "FCFS")
    (readable : forall work, work ∈ listing ->
    eligible (qm.client ptr) (qm.workQueue.work work) ≠ none) :
    Exists fun err => qm.popWorks req listing = some
      (if chosen qm (qm.client ptr) req.available req.count listing = [] then (qm, .error err)
        else ((chosen qm (qm.client ptr) req.available req.count listing).foldl
        (handOut req.fromclient) qm,
          .ok (chosen qm (qm.client ptr) req.available req.count listing))) := by
  by_cases visits : listing = []
  · refine ⟨"(popWorks) filterWorkByClient returned: " ++ queueEmpty, ?_⟩
    have nothing : chosen qm (qm.client ptr) req.available req.count listing = [] := by
      rw [visits]
      exact List.take_nil
    rw [if_pos nothing]
    simp only [popWorks, known, filterWorkByClient, if_neg named, if_pos visits]
  · cases filtered : filterWorkunits qm (qm.client ptr) listing with
    | none =>
        rcases filterWorkunits_eq_none filtered with ⟨work, member, broken⟩
        exact (readable work member broken).elim
    | some fitting =>
        have kept := (filterWorkunits_eq_some filtered).1
        have picked := @selectWorkunits_eq qm (qm.client ptr) req.available req.count listing
        rw [<- kept] at picked
        simp only [popWorks, known, filterWorkByClient, if_neg named, if_neg visits, filtered,
            Option.map_some]
        cases fitting with
        | nil =>
            have nothing : chosen qm (qm.client ptr) req.available req.count listing = [] := by
              unfold chosen
              rw [<- kept]
              exact List.take_nil
            exact ⟨noEligibleWorkunitFound, by rw [if_pos nothing]⟩
        | cons first others =>
            simp only [fcfs, picked]
            refine ⟨"(popWorks) selectWorkunits returned: " ++ noEligibleWorkunitFound, ?_⟩
            split_ifs <;> rfl

/-- The chosen workunits are checked out for the client exactly if each of them is
claimed when it is handed out. -/
theorem handed_checkedOut_iff {clientID : String} {works : List Nat} {after : CQMgr}
    (clientName : clientID ≠ "") (handed : Handed clientID qm after works) :
    (CheckedOut qm after works ∧ forall work, work ∈ works ->
        (after.workQueue.work work).client = clientID) ↔
      forall work, work ∈ works -> Claimed qm work := by
  constructor
  · rintro ⟨checked, marked⟩ work member
    have client := handed.client work member
    have filed := handed.filed work member
    rw [marked work member] at client
    rw [checked.filed work member] at filed
    by_cases already : (qm.workQueue.work work).state = workStatCheckout
    · rw [if_neg (fun differs => differs already)] at filed
      exact Or.inr ⟨already, filed.symm⟩
    · by_cases reserved : (qm.workQueue.work work).state = workStatReserved
      · exact Or.inl reserved
      · rw [if_pos ⟨already, reserved⟩] at client
        exact (clientName client).elim
  · intro claimed
    refine ⟨⟨?_, handed.state, handed.others, handed.entries⟩, ?_⟩
    · intro work member
      rw [handed.filed work member]
      rcases claimed work member with reserved | ⟨already, filed⟩
      · rw [if_pos (by rw [reserved]; decide)]
      · rw [if_neg (fun differs => differs already), filed]
    · intro work member
      rw [handed.client work member]
      rcases claimed work member with reserved | ⟨already, _⟩
      · rw [if_neg (fun both => both.2 reserved)]
      · rw [if_neg (fun both => both.1 already)]

/-- `popWorks` does all that is asked of it exactly if it has no name to write, or if it
reads the whole queue, each workunit it chooses is claimed already, and no sum that overflows
has made the choice a different one.  Without such a sum it gives the right selection in any
case, and what it gives is checked out unless it was in that state. -/
theorem givesOut_iff (ok : QueueOk qm.workQueue)
    (visited : GoMap.Listing qm.workQueue.queue listing)
    (known : qm.clientMap.lookup req.fromclient = some ptr)
    (named : (qm.client ptr).id = req.fromclient) (fcfs : req.policy = "FCFS") :
    (GivesOut qm (qm.client ptr) req listing ↔
      req.fromclient = "" ∨
        ((forall work, work ∈ listing -> eligible (qm.client ptr) (qm.workQueue.work work) ≠ none) ∧
          forall work, work ∈ chosen qm (qm.client ptr) req.available req.count listing ->
            Claimed qm work ∧ Unspoilt qm (qm.client ptr) req.available listing work)) ∧
      forall after works, qm.popWorks req listing = some (after, .ok works) ->
        ((forall work, work ∈ listing ->
            eligible (qm.client ptr) (qm.workQueue.work work) = some true ->
            ¬Overflows qm req.available work) ->
                Selection qm (qm.client ptr) req.available req.count listing works) ∧
          ((forall work, work ∈ works -> (qm.workQueue.work work).state ≠ workStatCheckout) ->
            CheckedOut qm after works) := by
  by_cases anonymous : req.fromclient = ""
  · have refused := @popWorks_anonymous qm req listing ptr known named anonymous
    refine ⟨iff_of_true ⟨qm, _, refused, nofun, fun _ => ⟨⟨_, rfl⟩, rfl⟩⟩ (Or.inl anonymous), ?_⟩
    intro after works popped
    rw [refused] at popped
    cases popped
  have clientName : (qm.client ptr).id ≠ "" := by
    rw [named]
    exact anonymous
  by_cases readable : forall work, work ∈ listing ->
      eligible (qm.client ptr) (qm.workQueue.work work) ≠ none
  · rcases @popWorks_eq qm req listing ptr known clientName fcfs readable with ⟨err, popped⟩
    by_cases empty : chosen qm (qm.client ptr) req.available req.count listing = []
    · -- nothing passes
      rw [if_pos empty] at popped
      refine ⟨iff_of_true ⟨qm, _, popped, nofun, fun _ => ⟨⟨_, rfl⟩, rfl⟩⟩ (Or.inr ⟨readable, ?_⟩),
          ?_⟩
      · rw [empty]
        exact nofun
      · intro after works given
        rw [popped] at given
        cases given
    · rw [if_neg empty] at popped
      have best := @chosen_best qm (qm.client ptr) req.available req.count listing
          (listing_nodup ok visited)
      have selected := best.selection_iff empty
      have handed := handed_foldl req.fromclient ok best.distinct fun work member => by
        rcases (visited.mem).mp (best.passed work member).1 with ⟨id, filed⟩
        have stored := (ok.queue id work filed).1
        rw [ok.stored.named stored]
        exact stored
      have checked := handed_checkedOut_iff anonymous handed
      refine ⟨⟨?_, ?_⟩, ?_⟩
      · rintro ⟨after, outcome, same, given, _⟩
        rw [popped] at same
        cases same
        rcases given _ rfl with ⟨selection, filed, marked⟩
        have claimed := checked.mp ⟨filed, marked⟩
        have unspoilt := selected.mp selection
        exact Or.inr ⟨readable, fun work member => ⟨claimed work member, unspoilt work member⟩⟩
      · rintro (nameless | ⟨_, right⟩)
        · exact (anonymous nameless).elim
        · have selection := selected.mpr fun work member => (right work member).2
          rcases checked.mpr fun work member => (right work member).1 with ⟨filed, marked⟩
          refine ⟨_, _, popped, ?_, ?_⟩
          · intro works same
            cases same
            exact ⟨selection, filed, marked⟩
          · intro nothing
            rcases List.exists_mem_of_ne_nil _ empty with ⟨work, member⟩
            rcases selection.qualified work member with ⟨listed, qualifies⟩
            exact absurd qualifies (nothing work listed)
      · intro after works given
        rw [popped] at given
        cases given
        refine ⟨fun exact => selected.mpr fun work _ other listed eligible overflows =>
          absurd overflows (exact other listed eligible), fun free =>
              ⟨?_, handed.state, handed.others, handed.entries⟩⟩
        intro work member
        rw [handed.filed work member, if_pos (free work member)]
  · -- a workunit that cannot be read stops the filter
    have broken := readable
    push Not at broken
    rcases broken with ⟨work, member, broken⟩
    have stopped := @popWorks_eq_none qm req listing ptr known clientName work member broken
    refine ⟨iff_of_false ?_ ?_, ?_⟩
    · rintro ⟨after, outcome, popped, _⟩
      rw [stopped] at popped
      cases popped
    · rintro (nameless | ⟨whole, _⟩)
      · exact anonymous nameless
      · exact readable whole
    · intro after works popped
      rw [stopped] at popped
      cases popped

end

end

private def waitingWorkunit : Workunit :=
  { WorkQueue.blank with
    ident := ⟨⟨"align", "j"⟩, 0⟩
    state := workStatInit
    globalId := "j_align_0"
    info := some ⟨1, 0, "", false⟩
    cmd := some "bwa" }

/-- A queue with one workunit, and a client that runs its command. -/
private def offeringServer : CQMgr where
  workQueue := ((WorkQueue.newWorkQueue.alloc waitingWorkunit).1.add 0).1
  client := fun _ => ⟨"worker", "", ["bwa"], [], ⟨[], []⟩, ⟨[], []⟩, true, false, "", 0⟩
  nextClient := 1
  clientMap := AList.insert "worker" 0 ∅
  suspendQueue := false

private def oneRequest : CheckoutRequest :=
  ⟨"FCFS", "worker", -1, 1, 0⟩

private theorem offeringServer_ok : QueueOk offeringServer.workQueue :=
  QueueOk.newWorkQueue.add waitingWorkunit

private theorem offeringServer_visited : GoMap.Listing offeringServer.workQueue.queue [0] := by
  unfold GoMap.Listing
  decide

/-- Two inputs of 2^62 bytes each make a workunit that fits anywhere. -/
example : { waitingWorkunit with inputs := [2 ^ 62, 2 ^ 62] }.inputSize = -2 ^ 63 := by decide

/-- The workunit qualifies and is not claimed, so it is given without a name. -/
theorem givesOut_iff_offering :
    ¬GivesOut offeringServer (offeringServer.client 0) oneRequest [0] := by
  have exactly := (@givesOut_iff offeringServer oneRequest [0] 0 offeringServer_ok
      offeringServer_visited
    (by decide) (by decide) rfl).1
  rw [exactly]
  rintro (nameless | ⟨_, claimed⟩)
  · exact absurd nameless (by decide)
  · have picked : 0 ∈ chosen offeringServer (offeringServer.client 0) (-1) 1 [0] := by decide
    rcases (claimed 0 picked).1 with reserved | ⟨already, _⟩
    · exact absurd reserved (by decide)
    · exact absurd already (by decide)

/-- The only workunit of the queue is handed to a client, and belongs to nobody. -/
theorem handed_out_to_nobody : Exists fun after =>
    offeringServer.popWorks oneRequest [0] = some (after, .ok [0]) ∧
      (after.workQueue.work 0).state = workStatCheckout ∧ (after.workQueue.work 0).client = "" ∧
      ¬GivesOut offeringServer (offeringServer.client 0) oneRequest [0] := by
  have popped : offeringServer.popWorks oneRequest [0] =
      some (handOut "worker" offeringServer 0, .ok [0]) := rfl
  refine ⟨_, popped, by decide, by decide, ?_⟩
  rintro ⟨after, outcome, same, given, _⟩
  rw [popped] at same
  cases same
  have marked := (given [0] rfl).2.2 0 List.mem_cons_self
  exact absurd marked (by decide)

end CQMgr

end Core
end Awe
