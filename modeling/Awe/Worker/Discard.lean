import Awe.Worker.Pipeline

namespace Awe
namespace Worker

open Lib Awe.Core

/-!
# Discarding a workunit

`DiscardWorkunit` leaves a message in `workmap`: the entry of the workunit
becomes `ID_DISCARDED`, and the stages look there before they go on.  Each
stage looks once and writes its own number later, without looking again, so a
message that comes in between is overwritten; and the downloader does not look
at all.

While a command runs, a value on `chankill` ends it first.  The value carries no
name.  It goes to whoever receives next, and if the command has ended by itself
in the meantime that is the command, container or pre-work script of another
workunit.
-/

/-! ## Where the message is read in time -/

/-- The workunit is not before the downloader's write. -/
def Stealer.Past (id : WorkunitUniqueIdentifier) : Stealer -> Prop
  | .checkedOut work | .entered work | .offering work => work.id ≠ id
  | .idle | .permit => True

def Downloader.Past (id : WorkunitUniqueIdentifier) : Downloader -> Prop
  | .received work => work.id ≠ id
  | _ => True

/-- It is not between the look of the processor and the start of its command. -/
def Processor.Past (id : WorkunitUniqueIdentifier) : Processor -> Prop
  | .looked work | .marked work => work.id ≠ id
  | _ => True

/-- It is not between the look of the deliverer and the end of its report. -/
def Deliverer.Past (id : WorkunitUniqueIdentifier) : Deliverer -> Prop
  | .looked work | .uploading work | .notifying work | .retrying work => work.id ≠ id
  | _ => True

/-- No stage has looked at the entry of the workunit and is still going to act on it. The stages
that are still going to write are those that would put their own number over the flag. -/
structure Readable (s : State) (id : WorkunitUniqueIdentifier) : Prop where
  stealer : s.stealer.Past id
  downloader : s.downloader.Past id
  processor : s.processor.Past id
  deliverer : s.deliverer.Past id

/-- The message is there, or the deliverer has removed it. -/
structure Noted (s : State) (id : WorkunitUniqueIdentifier) : Prop extends Readable s id where
  entry : s.workmap.lookup id = some .discarded ∨ s.workmap.lookup id = none

/-- The server hands out the workunit again. -/
def Event.ChecksOut (id : WorkunitUniqueIdentifier) : Event -> Prop
  | .checkout other .. => other = id
  | _ => False

section

variable {s after : State} {id : WorkunitUniqueIdentifier} {event : Event}

/-- The write of a stage for another workunit. -/
theorem setStage_lookup {other : WorkunitUniqueIdentifier} (different : other ≠ id)
    (stage : Stage) :
    (s.setStage other stage).workmap.lookup id = s.workmap.lookup id :=
  AList.lookup_insert_ne (Ne.symm different)

/-- What a step does to the entry: nothing, or the message is written again, or
the deliverer removes it. -/
def KeepsEntry (s after : State) (event : Event) (id : WorkunitUniqueIdentifier) : Prop :=
  after.workmap.lookup id = s.workmap.lookup id ∨ after.workmap.lookup id = some .discarded ∨
    (after.workmap.lookup id = none ∧ event = .forget ∧
      Exists fun work => s.deliverer = .forgetting work ∧ work.id = id)

theorem stealerStep_noted {overlap : Bool} (noted : Noted s id) (again : ¬event.ChecksOut id)
    (stepped : s.stealerStep overlap event = some after) :
    Readable after id ∧ KeepsEntry s after event id := by
  have stealer := noted.stealer
  unfold State.stealerStep at stepped
  cases event with
  | checkoutFailed =>
      dsimp only at stepped
      split at stepped
      · split at stepped
        · cases stepped
          exact ⟨⟨noted.stealer, noted.downloader, noted.processor, noted.deliverer⟩, Or.inl rfl⟩
        · cases stepped
      · cases stepped
  | checkout other _ _ _ =>
      dsimp only at stepped
      split at stepped
      · split at stepped
        · cases stepped
          exact ⟨⟨again, noted.downloader, noted.processor, noted.deliverer⟩, Or.inl rfl⟩
        · cases stepped
      · cases stepped
  | enter =>
      dsimp only at stepped
      split at stepped
      · next work checkedOut =>
          rw [checkedOut] at stealer
          split at stepped
          · cases stepped
            exact ⟨⟨stealer, noted.downloader, noted.processor, noted.deliverer⟩, Or.inl rfl⟩
          · cases stepped
            exact ⟨⟨trivial, noted.downloader, noted.processor, noted.deliverer⟩, Or.inl rfl⟩
      · cases stepped
  | setStealer =>
      dsimp only at stepped
      split at stepped
      · next work entered =>
          rw [entered] at stealer
          cases stepped
          exact ⟨⟨stealer, noted.downloader, noted.processor, noted.deliverer⟩,
            Or.inl (setStage_lookup stealer .workStealer)⟩
      · cases stepped
  | fromStealer =>
      dsimp only at stepped
      split at stepped
      · next work offering waiting =>
          rw [offering] at stealer
          cases stepped
          refine ⟨⟨?_, stealer, noted.processor, noted.deliverer⟩, Or.inl rfl⟩
          dsimp only
          split <;> trivial
      · cases stepped
  | permit =>
      dsimp only at stepped
      split at stepped
      · cases stepped
        exact ⟨⟨trivial, noted.downloader, noted.processor, trivial⟩, Or.inl rfl⟩
      · cases stepped
  | _ => cases stepped

theorem downloaderStep_noted (noted : Noted s id) (stepped : s.downloaderStep event = some after) :
    Readable after id ∧ KeepsEntry s after event id := by
  have downloader := noted.downloader
  -- Behind its own write the downloader touches nothing that matters.
  have inside (next : Downloader) (past : next.Past id) (healthy : Bool) :
      Readable { s with downloader := next, healthy := healthy } id ∧
        KeepsEntry s { s with downloader := next, healthy := healthy } event id :=
    ⟨⟨noted.stealer, past, noted.processor, noted.deliverer⟩, Or.inl rfl⟩
  unfold State.downloaderStep at stepped
  cases event with
  | setDownloader =>
      dsimp only at stepped
      split at stepped
      · next work received =>
          rw [received] at downloader
          split at stepped
          · cases stepped
            exact ⟨⟨noted.stealer, trivial, noted.processor, noted.deliverer⟩,
              Or.inl (setStage_lookup downloader .dataDownloader)⟩
          · cases stepped
            exact inside _ (by trivial) s.healthy
          · cases stepped
            exact ⟨⟨noted.stealer, noted.downloader, noted.processor, noted.deliverer⟩, Or.inl rfl⟩
      · cases stepped
  | prepare outcome =>
      dsimp only at stepped
      split at stepped
      · cases outcome with
        | mkdirFailed =>
            cases stepped
            exact inside _ (by trivial) false
        | noScript =>
            cases stepped
            exact inside _ (by trivial) s.healthy
        | script =>
            cases stepped
            exact inside _ (by trivial) s.healthy
      · cases stepped
  | scriptEnded ok =>
      dsimp only at stepped
      split at stepped
      · split at stepped
        · cases stepped
          exact inside _ (by trivial) s.healthy
        · cases stepped
          exact inside _ (by trivial) s.healthy
      · cases stepped
  | downloaded ok =>
      dsimp only at stepped
      split at stepped
      · cases stepped
        exact inside _ (by trivial) s.healthy
      · cases stepped
  | fromMover =>
      dsimp only at stepped
      split at stepped
      · cases stepped
        exact ⟨⟨noted.stealer, trivial, trivial, noted.deliverer⟩, Or.inl rfl⟩
      · cases stepped
  | _ => cases stepped

theorem processorStep_noted (noted : Noted s id) (stepped : s.processorStep event = some after) :
    Readable after id ∧ KeepsEntry s after event id := by
  have processor := noted.processor
  have inside (next : Processor) (past : next.Past id) :
      Readable { s with processor := next } id ∧
      KeepsEntry s { s with processor := next } event id :=
    ⟨⟨noted.stealer, noted.downloader, past, noted.deliverer⟩, Or.inl rfl⟩
  unfold State.processorStep at stepped
  cases event with
  | lookUp =>
      dsimp only at stepped
      split at stepped
      · next work received =>
          split at stepped
          · cases stepped
            exact inside _ (by trivial)
          · split at stepped
            · cases stepped
              exact inside _ (by trivial)
            · split at stepped
              · cases stepped
                exact inside _ (by trivial)
              · cases stepped
                exact inside _ (by trivial)
              · next stage other found =>
                  cases stepped
                  -- The entry of this workunit is the message or is gone, so it is another one's.
                  refine inside _ fun same => ?_
                  rw [same] at found
                  rcases noted.entry with message | gone
                  · rw [found] at message
                    cases message
                    exact other rfl
                  · rw [found] at gone
                    cases gone
      · cases stepped
  | setWorker =>
      dsimp only at stepped
      split at stepped
      · next work looked =>
          rw [looked] at processor
          cases stepped
          exact ⟨⟨noted.stealer, noted.downloader, processor, noted.deliverer⟩,
            Or.inl (setStage_lookup processor .worker)⟩
      · cases stepped
  | runWorkunit envFailed =>
      dsimp only at stepped
      split at stepped
      · split at stepped
        · cases stepped
          exact inside _ (by trivial)
        · cases stepped
          exact inside _ (by trivial)
      · cases stepped
  | execute started =>
      dsimp only at stepped
      split at stepped
      · cases stepped
        refine inside _ ?_
        split <;> trivial
      · cases stepped
  | ended result =>
      dsimp only at stepped
      split at stepped
      · cases stepped
        exact inside _ (by trivial)
      · cases stepped
  | fromProcessor =>
      dsimp only at stepped
      split at stepped
      · cases stepped
        exact ⟨⟨noted.stealer, noted.downloader, trivial, trivial⟩, Or.inl rfl⟩
      · cases stepped
  | _ => cases stepped

theorem delivererStep_noted (noted : Noted s id) (stepped : s.delivererStep event = some after) :
    Readable after id ∧ KeepsEntry s after event id := by
  have deliverer := noted.deliverer
  have inside (next : Deliverer) (past : next.Past id) :
      Readable { s with deliverer := next } id ∧
      KeepsEntry s { s with deliverer := next } event id :=
    ⟨⟨noted.stealer, noted.downloader, noted.processor, past⟩, Or.inl rfl⟩
  unfold State.delivererStep at stepped
  cases event with
  | lookUpResult =>
      dsimp only at stepped
      split at stepped
      · next work received =>
          split at stepped
          · cases stepped
            exact inside _ (by trivial)
          · split at stepped
            · cases stepped
              exact inside _ (by trivial)
            · cases stepped
              exact inside _ (by trivial)
            · next stage other found =>
                cases stepped
                refine inside _ fun same => ?_
                rw [same] at found
                rcases noted.entry with message | gone
                · rw [found] at message
                  cases message
                  exact other rfl
                · rw [found] at gone
                  cases gone
      · cases stepped
  | setDeliverer =>
      dsimp only at stepped
      split at stepped
      · next work looked =>
          rw [looked] at deliverer
          cases stepped
          exact ⟨⟨noted.stealer, noted.downloader, noted.processor, deliverer⟩,
            Or.inl (setStage_lookup deliverer .deliverer)⟩
      · cases stepped
  | upload ok =>
      dsimp only at stepped
      split at stepped
      · next work uploading =>
          rw [uploading] at deliverer
          cases stepped
          refine inside _ ?_
          split <;> exact deliverer
      · cases stepped
  | notified answer =>
      dsimp only at stepped
      split at stepped
      · next work notifying =>
          rw [notifying] at deliverer
          cases answer with
          | delivered | clientNotFound =>
              cases stepped
              exact ⟨⟨noted.stealer, noted.downloader, noted.processor, trivial⟩, Or.inl rfl⟩
          | refused =>
              cases stepped
              exact inside _ deliverer
          | noResponse =>
              cases stepped
              exact ⟨⟨noted.stealer, noted.downloader, noted.processor, noted.deliverer⟩,
                  Or.inl rfl⟩
      · cases stepped
  | retry =>
      dsimp only at stepped
      split at stepped
      · next work retrying =>
          rw [retrying] at deliverer
          cases stepped
          exact inside _ deliverer
      · cases stepped
  | removeWork =>
      dsimp only at stepped
      split at stepped
      · split at stepped
        · cases stepped
          exact ⟨⟨noted.stealer, noted.downloader, noted.processor, trivial⟩, Or.inl rfl⟩
        · cases stepped
          exact inside _ (by trivial)
        · cases stepped
          exact ⟨⟨noted.stealer, noted.downloader, noted.processor, noted.deliverer⟩, Or.inl rfl⟩
      · cases stepped
  | forget =>
      dsimp only at stepped
      split at stepped
      · next work forgetting =>
          cases stepped
          rw [State.rest_eq]
          refine ⟨⟨noted.stealer, noted.downloader, noted.processor, trivial⟩, ?_⟩
          by_cases same : work.id = id
          · refine Or.inr (Or.inr ⟨?_, rfl, work, forgetting, same⟩)
            rw [← same]
            exact AList.lookup_erase _ _
          · exact Or.inl (AList.lookup_erase_ne (Ne.symm same))
      · cases stepped
  | _ => cases stepped

theorem heartbeaterStep_noted (noted : Noted s id)
    (stepped : s.heartbeaterStep event = some after) :
    Readable after id ∧ KeepsEntry s after event id := by
  have inside (next : Heartbeater) :
      Readable { s with heartbeater := next } id ∧
      KeepsEntry s { s with heartbeater := next } event id :=
    ⟨⟨noted.stealer, noted.downloader, noted.processor, noted.deliverer⟩, Or.inl rfl⟩
  unfold State.heartbeaterStep at stepped
  cases event with
  | discard other =>
      dsimp only at stepped
      split at stepped
      · split at stepped
        · cases stepped
          exact ⟨noted.toReadable, Or.inl rfl⟩
        · cases stepped
          exact inside _
        · cases stepped
          exact inside _
      · cases stepped
  | kill =>
      dsimp only at stepped
      split at stepped
      · cases stepped
        exact ⟨⟨noted.stealer, noted.downloader, trivial, noted.deliverer⟩, Or.inl rfl⟩
      · cases stepped
  | killScript =>
      dsimp only at stepped
      split at stepped
      · cases stepped
        exact ⟨⟨noted.stealer, trivial, noted.processor, noted.deliverer⟩, Or.inl rfl⟩
      · cases stepped
  | setDiscarded =>
      dsimp only at stepped
      split at stepped
      · next other marking =>
          cases stepped
          refine ⟨⟨noted.stealer, noted.downloader, noted.processor, noted.deliverer⟩, ?_⟩
          by_cases same : other = id
          · refine Or.inr (Or.inl ?_)
            rw [same]
            exact AList.lookup_insert _
          · exact Or.inl (setStage_lookup same .discarded)
      · cases stepped
  | removeDiscarded =>
      dsimp only at stepped
      split at stepped
      · cases stepped
        rw [State.rest_eq]
        exact ⟨⟨noted.stealer, noted.downloader, noted.processor, noted.deliverer⟩, Or.inl rfl⟩
      · cases stepped
  | _ => cases stepped

theorem step_noted {overlap : Bool} (noted : Noted s id) (again : ¬event.ChecksOut id)
    (stepped : step overlap s event = some after) :
    Readable after id ∧ KeepsEntry s after event id := by
  unfold step at stepped
  split at stepped
  · cases stepped
  · split at stepped
    · exact stealerStep_noted noted again stepped
    · exact downloaderStep_noted noted stepped
    · exact processorStep_noted noted stepped
    · exact delivererStep_noted noted stepped
    · exact heartbeaterStep_noted noted stepped

/-- The message stays until it is read. -/
theorem Noted.step {overlap : Bool} (noted : Noted s id) (again : ¬event.ChecksOut id)
    (stepped : Worker.step overlap s event = some after) : Noted after id := by
  rcases step_noted noted again stepped with ⟨readable, kept | written | ⟨gone, _⟩⟩
  · exact ⟨readable, by rw [kept]; exact noted.entry⟩
  · exact ⟨readable, Or.inl written⟩
  · exact ⟨readable, Or.inr gone⟩

end

/-! ## A discard that arrives in time is not lost -/

/-- `RunWorkunit` is called for the workunit. -/
def StartsRun (s after : State) (id : WorkunitUniqueIdentifier) : Prop :=
  Exists fun work => s.processor = .marked work ∧ after.processor = .starting work ∧ work.id = id

/-- A notice about the workunit is sent, for the first time or again. -/
def StartsNotice (s after : State) (id : WorkunitUniqueIdentifier) : Prop :=
  (Exists fun work => s.deliverer = .uploading work ∧ work.id = id ∧
    Exists fun sent => after.deliverer = .notifying sent) ∨
    (Exists fun work => s.deliverer = .retrying work ∧ work.id = id ∧
        after.deliverer = .notifying work)

/-- What holds between the return of `DiscardWorkunit` and the next checkout. -/
structure Discarded (overlap : Bool) (s : State) (id : WorkunitUniqueIdentifier) : Prop where
  notRun : forall event after, step overlap s event = some after -> ¬StartsRun s after id
  notSent : forall event after, step overlap s event = some after -> ¬StartsNotice s after id
  entry : s.workmap.lookup id = some .discarded ∨ s.workmap.lookup id = none
  /-- Only the deliverer takes the message away. -/
  stays : forall event after, ¬event.ChecksOut id -> step overlap s event = some after ->
    s.workmap.lookup id = some .discarded ->
    after.workmap.lookup id = some .discarded ∨
      (event = .forget ∧ Exists fun work => s.deliverer = .forgetting work ∧ work.id = id)

theorem Noted.discarded {overlap : Bool} {s : State} {id : WorkunitUniqueIdentifier}
    (noted : Noted s id) :
    Discarded overlap s id where
  notRun := by
    rintro event after _ ⟨work, marked, _, same⟩
    have processor := noted.processor
    rw [marked] at processor
    exact processor same
  notSent := by
    have deliverer := noted.deliverer
    rintro event after _ (⟨work, uploading, same, _⟩ | ⟨work, retrying, same, _⟩)
    · rw [uploading] at deliverer
      exact deliverer same
    · rw [retrying] at deliverer
      exact deliverer same
  entry := noted.entry
  stays := by
    intro event after again stepped message
    obtain ⟨_, kept | written | ⟨_, forgets, work, forgetting, same⟩⟩ :=
        step_noted noted again stepped
    · exact Or.inl (kept.trans message)
    · exact Or.inl written
    · exact Or.inr ⟨forgets, work, forgetting, same⟩

/-- A discard whose message is written while no stage has looked at the entry and is still going
to act on it holds until the workunit is checked out again.  The stages look at the entry before
they act and write their own number into it later, so a message that is written in between is
overwritten. -/
theorem discard_holds {overlap : Bool} {before marked s : State} {id : WorkunitUniqueIdentifier}
    (discarding : before.heartbeater = .marking id) (readable : Readable before id)
    (marks : step overlap before .setDiscarded = some marked)
    (later : Reaches (step overlap) (fun _ event => ¬event.ChecksOut id) marked s) :
    Discarded overlap s id := by
  have first : Noted marked id := by
    unfold step at marks
    split at marks
    · cases marks
    · change before.heartbeaterStep .setDiscarded = some marked at marks
      unfold State.heartbeaterStep at marks
      rw [discarding] at marks
      cases marks
      exact ⟨⟨readable.stealer, readable.downloader, readable.processor, readable.deliverer⟩,
        Or.inl (AList.lookup_insert _)⟩
  have noted : Noted s id :=
    @Reaches.invariant _ _ _ _ _ (fun state => Noted state id) first
      (fun _ _ _ holds again stepped => holds.step again stepped) _ later
  exact noted.discarded

private def someID : WorkunitUniqueIdentifier :=
  ⟨⟨"task", "job-id"⟩, 0⟩

/-- The workunit is with the downloader, and `DiscardWorkunit` has found it there. -/
private def whileDownloading : List Event :=
  [.checkout someID false false false, .enter, .setStealer, .fromStealer, .setDownloader,
      .prepare .noScript,
    .discard someID]

theorem discard_holds_while_downloading :
    (exec (step false) State.init (whileDownloading ++ [.setDiscarded])).isSome ∧
      Discarded false (final (step false) State.init (whileDownloading ++ [.setDiscarded]))
      someID := by
  refine ⟨by decide, @discard_holds false (final (step false) State.init whileDownloading)
      _ _ someID (by decide) ?_
    ?_ .refl⟩
  · refine ⟨?_, ?_, ?_, ?_⟩
    · trivial
    · trivial
    · trivial
    · trivial
  · rfl

/-- `DiscardWorkunit` has found the workunit in the hands of the stealer. -/
private def whileOffered : List Event :=
  [.checkout someID false false false, .enter, .setStealer, .discard someID]

private def overwritten : List Event :=
  [.removeDiscarded, .fromStealer, .setDownloader]

theorem discard_lost :
    ¬forall before marked s, Reaches (step false) anyEvent State.init before ->
      before.heartbeater = .marking someID -> step false before .setDiscarded = some marked ->
      Reaches (step false) (fun _ event => ¬event.ChecksOut someID) marked s ->
          Discarded false s someID := by
  intro holds
  have offered : (exec (step false) State.init whileOffered).isSome := by decide
  have marked : (exec (step false) State.init (whileOffered ++ [.setDiscarded])).isSome := by decide
  have later : (exec (step false) (final (step false) State.init (whileOffered ++ [.setDiscarded]))
      overwritten).isSome := by
    decide
  have discarded := holds (final (step false) State.init whileOffered)
    (final (step false) State.init (whileOffered ++ [.setDiscarded]))
    (final (step false) (final (step false) State.init (whileOffered ++ [.setDiscarded]))
    overwritten)
    (Reaches.of_exec whileOffered (fun _ _ _ => trivial) .refl (exec_eq_final offered))
        (by decide) rfl
    (Reaches.of_exec overwritten (by
      intro event member state again
      have listed : event = .removeDiscarded ∨ event = .fromStealer ∨ event = .setDownloader := by
        simpa [overwritten] using member
      rcases listed with rfl | rfl | rfl <;> exact again) .refl (exec_eq_final later))
  have entry := discarded.entry
  revert entry
  decide

/-! ## Who gets the signal -/

/-- The command of the workunit runs or is about to. -/
def Processor.Commands (id : WorkunitUniqueIdentifier) : Processor -> Prop
  | .marked work | .starting work | .executing work => work.id = id
  | _ => False

/-- No pre-work script listens. -/
def Downloader.Silent : Downloader -> Prop
  | .preWork _ => False
  | _ => True

/-- The events after which a pending signal finds another listener: the command
is not started, it ends by itself, or a pre-work script starts. -/
def Event.Misleads (s : State) : Event -> Prop
  | .runWorkunit envFailed => Exists fun work => s.processor = .marked work ∧
      ¬work.wantsDocker ∧ work.hasPrivateEnv ∧ envFailed
  | .execute started => started = false
  | .ended _ => True
  | .prepare outcome => outcome = .script
  | _ => False

/-- A discard finds an entry of the processor only while the command of the
workunit runs or is about to, with no pre-work script running, and until the
signal is taken nothing misleads it. -/
def Aimed (s : State) (event : Event) : Prop :=
  (forall id, event = .discard id -> s.workmap.lookup id = some .worker ->
    s.processor.Commands id ∧ s.downloader.Silent) ∧
  (forall id, s.heartbeater = .killing id -> ¬event.Misleads s)

/-- A pending signal has one listener, the command it is meant for. All listeners of `chankill`
read the same channel, and a signal goes to whichever of them comes first. -/
def OnTarget (s : State) : Prop :=
  forall id, s.heartbeater = .killing id -> s.processor.Commands id ∧ s.downloader.Silent

section

variable {s after : State} {event : Event}

theorem OnTarget.of_idle (idle : forall id, s.heartbeater ≠ .killing id) : OnTarget s :=
  fun id killing => absurd killing (idle id)

/-- A step that leaves the heartbeater, the processor and the downloader alone. -/
theorem OnTarget.of_same (target : OnTarget s) (heartbeater : after.heartbeater = s.heartbeater)
    (processor : after.processor = s.processor) (downloader : after.downloader = s.downloader) :
    OnTarget after := by
  intro id killing
  rw [heartbeater] at killing
  rw [processor, downloader]
  exact target id killing

theorem stealerStep_onTarget {overlap : Bool} (target : OnTarget s)
    (stepped : s.stealerStep overlap event = some after) :
    OnTarget after := by
  unfold State.stealerStep at stepped
  cases event with
  | fromStealer =>
      dsimp only at stepped
      split at stepped
      · cases stepped
        exact fun id killing => ⟨(target id killing).1, trivial⟩
      · cases stepped
  | checkoutFailed | checkout _ _ _ _ | enter | setStealer | permit =>
      dsimp only at stepped
      repeat' split at stepped
      all_goals cases stepped
      all_goals exact target.of_same rfl rfl rfl
  | _ => cases stepped

theorem downloaderStep_onTarget (target : OnTarget s)
    (aimed : forall id, s.heartbeater = .killing id -> ¬event.Misleads s)
    (stepped : s.downloaderStep event = some after) : OnTarget after := by
  unfold State.downloaderStep at stepped
  cases event with
  | prepare outcome =>
      dsimp only at stepped
      split at stepped
      · cases outcome with
        | script =>
            cases stepped
            exact fun id killing => absurd rfl (aimed id killing)
        | mkdirFailed | noScript =>
            cases stepped
            exact fun id killing => ⟨(target id killing).1, trivial⟩
      · cases stepped
  | fromMover =>
      dsimp only at stepped
      split at stepped
      · next work offering waiting =>
          cases stepped
          intro id killing
          have commands := (target id killing).1
          rw [waiting] at commands
          cases commands
      · cases stepped
  | setDownloader | scriptEnded _ | downloaded _ =>
      dsimp only at stepped
      repeat' split at stepped
      all_goals cases stepped
      all_goals first
        | exact target.of_same rfl rfl rfl
        | exact fun id killing => ⟨(target id killing).1, trivial⟩
  | _ => cases stepped

theorem processorStep_onTarget (target : OnTarget s)
    (aimed : forall id, s.heartbeater = .killing id -> ¬event.Misleads s)
    (stepped : s.processorStep event = some after) : OnTarget after := by
  -- While a signal is pending the processor is at the command, and nowhere else.
  have elsewhere {next : State} (away : forall id, ¬s.processor.Commands id)
      (same : next.heartbeater = s.heartbeater) : OnTarget next := by
    intro id killing
    rw [same] at killing
    exact absurd (target id killing).1 (away id)
  unfold State.processorStep at stepped
  cases event with
  | lookUp =>
      dsimp only at stepped
      split at stepped
      · next work received =>
          have away (id : WorkunitUniqueIdentifier) : ¬s.processor.Commands id := by
            rw [received]
            exact fun impossible => impossible
          repeat' split at stepped
          all_goals cases stepped
          all_goals exact elsewhere away rfl
      · cases stepped
  | setWorker =>
      dsimp only at stepped
      split at stepped
      · next work looked =>
          cases stepped
          refine elsewhere (fun id => ?_) rfl
          rw [looked]
          exact fun impossible => impossible
      · cases stepped
  | runWorkunit envFailed =>
      dsimp only at stepped
      split at stepped
      · next work marked =>
          split at stepped
          · next dropped =>
              cases stepped
              exact fun id killing => absurd ⟨work, marked, dropped⟩ (aimed id killing)
          · cases stepped
            intro id killing
            rcases target id killing with ⟨commands, silent⟩
            rw [marked] at commands
            exact ⟨commands, silent⟩
      · cases stepped
  | execute started =>
      dsimp only at stepped
      split at stepped
      · next work starting =>
          cases stepped
          intro id killing
          rcases target id killing with ⟨commands, silent⟩
          rw [starting] at commands
          cases started with
          | true => exact ⟨commands, silent⟩
          | false => exact absurd rfl (aimed id killing)
      · cases stepped
  | ended result =>
      dsimp only at stepped
      split at stepped
      · cases stepped
        exact fun id killing => absurd trivial (aimed id killing)
      · cases stepped
  | fromProcessor =>
      dsimp only at stepped
      split at stepped
      · next work offering waiting =>
          cases stepped
          refine elsewhere (fun id => ?_) rfl
          rw [offering]
          exact fun impossible => impossible
      · cases stepped
  | _ => cases stepped

theorem delivererStep_onTarget (target : OnTarget s)
    (stepped : s.delivererStep event = some after) :
    OnTarget after := by
  unfold State.delivererStep at stepped
  cases event with
  | forget =>
      dsimp only at stepped
      split at stepped
      · cases stepped
        rw [State.rest_eq]
        exact target.of_same rfl rfl rfl
      · cases stepped
  | lookUpResult | setDeliverer | upload _ | notified _ | retry | removeWork =>
      dsimp only at stepped
      repeat' split at stepped
      all_goals cases stepped
      all_goals exact target.of_same rfl rfl rfl
  | _ => cases stepped

theorem heartbeaterStep_onTarget (target : OnTarget s)
    (aimed : forall id, event = .discard id -> s.workmap.lookup id = some .worker ->
      s.processor.Commands id ∧ s.downloader.Silent)
    (stepped : s.heartbeaterStep event = some after) : OnTarget after := by
  unfold State.heartbeaterStep at stepped
  cases event with
  | discard id =>
      dsimp only at stepped
      split at stepped
      · split at stepped
        · cases stepped
          exact target
        · next found =>
            cases stepped
            intro other killing
            cases killing
            exact aimed id rfl found
        · cases stepped
          exact .of_idle fun _ => nofun
      · cases stepped
  | kill | killScript | setDiscarded =>
      dsimp only at stepped
      split at stepped
      · cases stepped
        exact .of_idle fun _ => nofun
      · cases stepped
  | removeDiscarded =>
      dsimp only at stepped
      split at stepped
      · cases stepped
        rw [State.rest_eq]
        exact .of_idle fun _ => nofun
      · cases stepped
  | _ => cases stepped

theorem step_onTarget {overlap : Bool} (target : OnTarget s) (aimed : Aimed s event)
    (stepped : step overlap s event = some after) : OnTarget after := by
  unfold step at stepped
  split at stepped
  · cases stepped
  · split at stepped
    · exact stealerStep_onTarget target stepped
    · exact downloaderStep_onTarget target aimed.2 stepped
    · exact processorStep_onTarget target aimed.2 stepped
    · exact delivererStep_onTarget target stepped
    · exact heartbeaterStep_onTarget target aimed.1 stepped

end

/-- The value that `DiscardWorkunit` sends goes to the execution of its workunit. The sender does
not say which workunit it means, so this is a property of the moment in which the value is taken.
-/
structure HitsTarget (overlap : Bool) (s : State) : Prop where
  command : forall after, step overlap s .kill = some after -> Exists fun work =>
    s.processor = .executing work ∧ s.heartbeater = .killing work.id
  script : step overlap s .killScript = none

/-- With worker overlap on or off: a discard that finds the command of its workunit running or
about to, and no pre-work script, hits this command, if until then the command does not end by
itself and no pre-work script starts.  The channel has no address: whoever runs a command receives
from it, and the sender waits until somebody does. -/
theorem kill_hits_target {overlap : Bool} {s : State}
    (reached : Reaches (step overlap) Aimed State.init s) :
    HitsTarget overlap s := by
  have initial : OnTarget State.init :=
      .of_idle fun id killing => (nomatch (killing : Heartbeater.idle = .killing id))
  have target : OnTarget s := @Reaches.invariant _ _ _ _ _ OnTarget initial
    (fun _ _ _ holds aimed stepped => step_onTarget holds aimed stepped) _ reached
  constructor
  · intro after stepped
    unfold step at stepped
    split at stepped
    · cases stepped
    · change s.heartbeaterStep .kill = some after at stepped
      unfold State.heartbeaterStep at stepped
      dsimp only at stepped
      split at stepped
      · next id work killing executing =>
          have commands := (target id killing).1
          rw [executing] at commands
          exact ⟨work, executing, by rw [killing, ← commands]⟩
      · cases stepped
  · unfold step
    split
    · rfl
    · change s.heartbeaterStep .killScript = none
      unfold State.heartbeaterStep
      dsimp only
      split
      · next id work killing running =>
          have silent := (target id killing).2
          rw [running] at silent
          cases silent
      · rfl

/-- The command of a workunit runs. -/
private def executing : List Event :=
  [.checkout someID false false false, .enter, .setStealer, .fromStealer, .setDownloader,
      .prepare .noScript,
    .downloaded true, .fromMover, .lookUp, .setWorker, .runWorkunit false, .execute true]

/-- `DiscardWorkunit` waits for the command to take the signal. -/
private def whileExecuting : List Event :=
  executing ++ [.discard someID]

theorem kill_hits_target_executing : (exec (step false) State.init whileExecuting).isSome ∧
    HitsTarget false (final (step false) State.init whileExecuting) := by
  refine ⟨by decide, kill_hits_target (Reaches.snoc (.discard someID) (Reaches.of_exec executing ?_ .refl
    (exec_eq_final (by decide))) ⟨?_, ?_⟩ rfl)⟩
  · -- None of these events is a discard or misleads a signal.
    have quiet : executing.all (fun event => match event with
        | .discard _ | .execute false | .ended _ | .prepare .script | .runWorkunit true => false
        | _ => true) = true := by decide
    intro event member state
    have calm := List.all_eq_true.mp quiet event member
    constructor
    · rintro id rfl
      cases calm
    · intro id _ misleads
      cases event with
      | runWorkunit envFailed =>
          rcases misleads with ⟨_, _, _, _, failed⟩
          rw [failed] at calm
          cases calm
      | execute started =>
          rw [show started = false from misleads] at calm
          cases calm
      | ended _ => cases calm
      | prepare outcome =>
          rw [show outcome = .script from misleads] at calm
          cases calm
      | _ => cases misleads
  · intro id same _
    cases same
    exact ⟨rfl, trivial⟩
  · intro id killing
    have idle : (final (step false) State.init executing).heartbeater = .idle := rfl
    rw [idle] at killing
    cases killing

private def otherID : WorkunitUniqueIdentifier :=
  ⟨⟨"task", "job-id"⟩, 1⟩

/-- The command ends, its result is delivered, and the next workunit runs. -/
private def nextExecuting : List Event :=
  whileExecuting ++
    [.ended .computed, .fromProcessor, .lookUpResult, .setDeliverer, .upload true,
        .notified .delivered, .removeWork,
      .forget, .permit, .checkout otherID false false false, .enter, .setStealer, .fromStealer,
          .setDownloader,
      .prepare .noScript, .downloaded true, .fromMover, .lookUp, .setWorker, .runWorkunit false,
          .execute true]

theorem kill_misses_target :
    ¬forall s, Reaches (step false) anyEvent State.init s -> HitsTarget false s := by
  intro hits
  have runs : (exec (step false) State.init nextExecuting).isSome := by decide
  have target := hits (final (step false) State.init nextExecuting)
    (Reaches.of_exec nextExecuting (fun _ _ _ => trivial) .refl (exec_eq_final runs))
  obtain ⟨work, executing, killing⟩ := target.command
    (final (step false) State.init (nextExecuting ++ [.kill])) rfl
  have isOther : work.id = otherID := by
    have running : (final (step false) State.init nextExecuting).processor =
        .executing ⟨1, otherID, false, false, .checkout⟩ := rfl
    rw [running] at executing
    cases executing
    rfl
  rw [isOther] at killing
  revert killing
  decide

end Worker
end Awe
