import RecordingName.Naming.Resolution
import RecordingName.Proofs.Call.Subscriptions

/-!
# Evaluations on a session

What an evaluation gives and leaves behind, step by step: `runOn_bind` takes a sequence
apart, and `runOn_bind_eq_ok` one that succeeds. What is `Composable` holds of an answer as soon
as it holds of its steps. `Keeps` is such a property: it says that an evaluation keeps a
relation between the session before and the session behind, whether or not it fails.
-/

namespace RecordingName.Naming

variable {α β : Type}

/-- What an evaluation gives on a session, and the session behind it. -/
def runOn (work : Evaluation α) (session : Session) : Except Fault α × Session :=
  work.run.run session

@[simp] theorem runOn_hide (source placeholder : Text) (session : Session) :
    runOn (hide source placeholder) session =
      (.ok (), { session with
        redactor := (session.redactor.add? source placeholder).getD session.redactor }) := rfl

theorem runOn_get (session : Session) :
    runOn (get : Evaluation Session) session = (.ok session, session) := rfl

theorem runOn_modify (change : Session → Session) (session : Session) :
    runOn (modify change : Evaluation Unit) session = (.ok (), change session) := rfl

theorem runOn_report (level : Level) (component : Component) (message : Text) (session : Session) :
    runOn (report level component message) session =
      (.ok (), { session with log := session.log ++ [⟨level, component, message⟩] }) := rfl

/-- A sequence goes on where its first part has succeeded. -/
theorem runOn_bind (work : Evaluation α) (next : α → Evaluation β) (session : Session) :
    runOn (work >>= next) session =
      match runOn work session with
      | (.ok value, behind) => runOn (next value) behind
      | (.error fault, behind) => (.error fault, behind) := by
  simp only [runOn, bind, ExceptT.bind, ExceptT.run, ExceptT.mk, StateT.run, StateT.bind,
    ExceptT.bindCont]
  cases work session with
  | mk result behind => cases result <;> rfl

/-- Passing on a result leaves the same session behind. -/
theorem behind_bind_pure (work : Evaluation α) (pass : α → β) (session : Session) :
    (runOn (work >>= fun value => pure (pass value)) session).2 = (runOn work session).2 := by
  rw [runOn_bind]
  cases runOn work session with
  | mk result behind => cases result <;> rfl

/-- An evaluation that may fail, and another one for that case. -/
theorem runOn_tryCatch (work : Evaluation α) (handler : Fault → Evaluation α) (session : Session) :
    runOn (tryCatch work handler) session =
      match runOn work session with
      | (.ok value, behind) => (.ok value, behind)
      | (.error fault, behind) => runOn (handler fault) behind := by
  simp only [runOn, tryCatch, tryCatchThe, MonadExceptOf.tryCatch, ExceptT.tryCatch, ExceptT.run,
    ExceptT.mk, StateT.run, bind, StateT.bind]
  cases work session with
  | mk result behind => cases result <;> rfl

/-- A sequence succeeds exactly when both of its parts do. -/
theorem runOn_bind_eq_ok {work : Evaluation α} {next : α → Evaluation β} {session behind : Session}
    {result : β} :
    runOn (work >>= next) session = (.ok result, behind) ↔
      ∃ value middle, runOn work session = (.ok value, middle) ∧
        runOn (next value) middle = (.ok result, behind) := by
  rw [runOn_bind]
  constructor
  · intro succeeded
    split at succeeded
    next value middle first => exact ⟨value, middle, first, succeeded⟩
    · cases succeeded
  · rintro ⟨value, middle, first, second⟩
    rw [first]
    exact second

/-- A sequence fails where its first part does, or else where the second does. -/
theorem runOn_bind_eq_error {work : Evaluation α} {next : α → Evaluation β}
    {session behind : Session} {fault : Fault} :
    runOn (work >>= next) session = (.error fault, behind) ↔
      runOn work session = (.error fault, behind) ∨
        ∃ value middle, runOn work session = (.ok value, middle) ∧
          runOn (next value) middle = (.error fault, behind) := by
  rw [runOn_bind]
  cases runOn work session with
  | mk result middle =>
      cases result with
      | error cause => simp
      | ok value =>
          constructor
          · exact fun failed => .inr ⟨value, middle, rfl, failed⟩
          · rintro (done | ⟨_, _, first, failed⟩)
            · cases done
            · cases first
              exact failed

/-- Whatever the device answers, it is behind the question then. -/
theorem runOn_ask (question : Subscriptions → Except Text α) (session : Session) :
    runOn (ask question) session =
      ((question session.subscriptions).mapError .subscriptions,
        { session with device := session.device.map Device.behind }) := by
  rw [ask, runOn_bind, runOn_get]
  dsimp only
  rw [runOn_bind, runOn_modify]
  dsimp only
  cases question session.subscriptions <;> rfl

/-- A property of evaluations that results, sequences, reports and redactions have. -/
structure Composable (holds : ∀ α : Type, Evaluation α → Prop) : Prop where
  pure : ∀ {α : Type} (value : α), holds α (Pure.pure value)
  bind : ∀ {α β : Type} {work : Evaluation α} {next : α → Evaluation β},
    holds α work → (∀ value, holds β (next value)) → holds β (work >>= next)
  report : ∀ level component message, holds Unit (Naming.report level component message)
  hide : ∀ source placeholder, holds Unit (Naming.hide source placeholder)

namespace Composable

variable {holds : ∀ α : Type, Evaluation α → Prop} (composable : Composable holds)
include composable

/-- A message before a value makes no difference to what is composable. -/
theorem pure_of_report (level : Level) (component : Component) (message : Text) (value : α) :
    holds α (Naming.report level component message >>= fun _ => Pure.pure value) :=
  composable.bind (composable.report level component message) fun _ => composable.pure value

/-- A value is handed out behind redactions. -/
theorem handOut (context : Context) (value single conference : Text) :
    holds (Option Text) (Naming.handOut context value single conference) := by
  unfold Naming.handOut
  split
  · exact composable.pure none
  · refine composable.bind (composable.hide _ _) fun _ => ?_
    dsimp only
    split
    · exact composable.bind (composable.hide _ _) fun _ => composable.pure _
    · exact composable.pure _

/-- The direction comes from the details, with a message where they do not know it. -/
theorem direction (context : Context) : holds (Option Text) (resolveDirection context) := by
  unfold resolveDirection
  split
  · exact composable.pure _
  · split
    · exact composable.pure _
    · exact composable.pure _
    · exact composable.pure_of_report _ _ _ _

/-- The slot is found by four questions to the device. -/
theorem simSlot {context : Context} (telephony : holds Bool (ask Subscriptions.hasTelephony))
    (permission : holds Bool (ask Subscriptions.hasPermission))
    (count : holds Nat (ask Subscriptions.activeCount))
    (slot : holds (Option Int) (ask (·.slotOf context.parent.account))) :
    holds (Option Text) (resolveSimSlot context) := by
  unfold resolveSimSlot
  refine composable.bind telephony fun telephony => ?_
  split
  · exact composable.pure_of_report _ _ _ _
  refine composable.bind permission fun permission => ?_
  split
  · exact composable.pure_of_report _ _ _ _
  refine composable.bind count fun count => ?_
  split
  · exact composable.pure _
  refine composable.bind slot fun slot => ?_
  split
  · exact composable.pure_of_report _ _ _ _
  · exact composable.pure _

/-- The name of a party needs what its look-up needs. -/
theorem contactName {context : Context} {party : Details}
    (lookUp : holds (Option Text) (lookUpContact context party)) :
    holds (Option Text) (Naming.contactName context party) := by
  unfold Naming.contactName
  split
  · exact composable.pure _
  dsimp only
  split
  · exact composable.bind (composable.report _ _ _) fun _ => lookUp
  · exact lookUp

/-- What holds of each step holds of them in turn. -/
theorem mapM {γ : Type} {step : γ → Evaluation α} (each : ∀ item, holds α (step item))
    (items : List γ) : holds (List α) (items.mapM step) := by
  induction items with
  | nil => exact composable.pure _
  | cons item rest ih =>
      rw [List.mapM_cons]
      exact composable.bind (each item) fun _ => composable.bind ih fun _ => composable.pure _

/-- An answer that is no date comes from the details of the call, from the device, or from the
directory. -/
theorem resolve_of_ne_date {zone : Zone} {context : Context} {target : Reference}
    (slot : holds (Option Text) (resolveSimSlot context))
    (lookUp : ∀ party, holds (Option Text) (lookUpContact context party))
    (other : Variable.ofName? target.name ≠ some .date) :
    holds (Option Text) (resolve zone context target) := by
  unfold resolve
  split
  · exact composable.pure_of_report _ _ _ _
  · contradiction
  · exact composable.direction context
  · exact slot
  · exact composable.handOut context _ _ _
  · exact composable.handOut context _ _ _
  · exact composable.bind (composable.mapM (fun party => composable.contactName (lookUp party)) _)
      fun _ => composable.handOut context _ _ _

end Composable

/-- Whatever an evaluation does, a relation holds between the session before and the session
behind it. -/
def Keeps (relation : Session → Session → Prop) (work : Evaluation α) : Prop :=
  ∀ session, relation session (runOn work session).2

/-- A relation between a session and a later one that all redactions and reports respect, and all
questions to the device or the directory. -/
structure Drift (relation : Session → Session → Prop) : Prop where
  refl : ∀ session, relation session session
  trans : ∀ {first second third}, relation first second → relation second third →
    relation first third
  hide : ∀ (session : Session) source placeholder, relation session
    { session with redactor := (session.redactor.add? source placeholder).getD session.redactor }
  ask : ∀ session : Session, relation session
    { session with device := session.device.map Device.behind }
  lookUp : ∀ (session : Session) directory lookups log, relation session
    { session with directory, lookups, log }

/-- Messages are among what a drift allows. -/
theorem Drift.report {relation : Session → Session → Prop} (drift : Drift relation)
    (session : Session) (log : List LogEntry) : relation session { session with log } :=
  drift.lookUp session session.directory session.lookups log

namespace Keeps

variable {relation : Session → Session → Prop}

/-- What two programs keep is kept by them one after the other. -/
theorem bind (drift : Drift relation) {work : Evaluation α} {next : α → Evaluation β}
    (first : Keeps relation work) (second : ∀ value, Keeps relation (next value)) :
    Keeps relation (work >>= next) := by
  intro session
  have before := first session
  rw [runOn_bind]
  split
  next value middle ran =>
    rw [ran] at before
    exact drift.trans before (second value middle)
  next fault middle ran =>
    rw [ran] at before
    exact before

/-- A drift is kept by all that is made of parts that keep it. -/
theorem composable (drift : Drift relation) : Composable fun _ work => Keeps relation work where
  pure _ := drift.refl
  bind := bind drift
  report _ _ _ session := drift.report session _
  hide source placeholder session := drift.hide session source placeholder

/-- A failure changes nothing. -/
theorem throw (drift : Drift relation) (fault : Fault) :
    Keeps relation (MonadExcept.throw fault : Evaluation α) :=
  drift.refl

/-- What stands behind a failure is not reached. -/
theorem throw_bind (drift : Drift relation) (fault : Fault) (next : α → Evaluation β) :
    Keeps relation ((MonadExcept.throw fault : Evaluation α) >>= next) :=
  drift.refl

theorem get (drift : Drift relation) : Keeps relation (MonadState.get : Evaluation Session) :=
  drift.refl

/-- Questions are among what a drift allows. -/
theorem ask (drift : Drift relation) (question : Subscriptions → Except Text α) :
    Keeps relation (Naming.ask question) := by
  intro session
  rw [runOn_ask]
  exact drift.ask session

/-- So are look-ups, with what they report. -/
theorem lookUpContact (drift : Drift relation) (context : Context) (party : Details) :
    Keeps relation (Naming.lookUpContact context party) := by
  unfold Naming.lookUpContact
  split
  · exact (composable drift).pure_of_report _ _ _ _
  refine bind drift (get drift) fun session => ?_
  dsimp only
  refine bind drift (fun session => drift.lookUp session _ _ _) fun _ => ?_
  split
  rotate_left
  · exact throw_bind drift _ _
  refine bind drift ((composable drift).pure _) fun configured => ?_
  split
  · exact (composable drift).pure_of_report _ _ _ _
  split
  · exact (composable drift).pure_of_report _ _ _ _
  refine bind drift ((composable drift).report _ _ _) fun _ => ?_
  refine bind drift (get drift) fun asked => ?_
  refine bind drift (fun session => drift.lookUp session _ _ _) fun _ => ?_
  split
  · exact (composable drift).pure_of_report _ _ _ _
  · exact (composable drift).pure_of_report _ _ _ _
  · exact (composable drift).pure_of_report _ _ _ _

/-- Only a date does more to a session than to report, redact and look up. -/
theorem resolve_of_ne_date (drift : Drift relation) (zone : Zone) (context : Context)
    {target : Reference} (other : Variable.ofName? target.name ≠ some .date) :
    Keeps relation (resolve zone context target) :=
  (composable drift).resolve_of_ne_date
    ((composable drift).simSlot (ask drift _) (ask drift _) (ask drift _) (ask drift _))
    (lookUpContact drift context) other

end Keeps

/-- The formatter that a date chooses: that of a valid pattern, or else the one in force. -/
def chosenFormatter (formatter : DateFormat.Formatter) : Option Text → DateFormat.Formatter
  | none => formatter
  | some text =>
      match DateFormat.Pattern.parse text with
      | .ok pattern => .custom pattern
      | .error _ => formatter

/-- A date fails without a trace if the call has no timestamp. -/
theorem runOn_resolveDate_of_error {zone : Zone} {context : Context} {error : InstantError}
    (failed : ZonedTimestamp.ofMillis zone context.parent.creationMillis = .error error)
    (argument : Option Text) (session : Session) :
    runOn (resolveDate zone context argument) session = (.error (.instant error), session) := by
  simp only [resolveDate, failed]
  rfl

/-- What comes of writing a timestamp as the answer to a date. -/
def dateAnswer (formatter : DateFormat.Formatter) (stamp : ZonedTimestamp) :
    Except Fault (Option Text) :=
  match formatter.encodingError? with
  | some error => .error (.format (.encoding error))
  | none => .ok (some (formatter.write stamp))

/-- A formatter that can write answers with what it writes. -/
theorem dateAnswer_of_isEncodable {formatter : DateFormat.Formatter}
    (encodable : formatter.IsEncodable) (stamp : ZonedTimestamp) :
    dateAnswer formatter stamp = .ok (some (formatter.write stamp)) := by
  rw [dateAnswer, encodable]

/-- A date is answered exactly if its formatter can write. -/
theorem dateAnswer_eq_ok_iff {formatter : DateFormat.Formatter} {stamp : ZonedTimestamp}
    {answer : Option Text} :
    dateAnswer formatter stamp = .ok answer ↔
      formatter.IsEncodable ∧ answer = some (formatter.write stamp) := by
  rw [dateAnswer, DateFormat.Formatter.IsEncodable]
  cases formatter.encodingError? <;> simp [eq_comm]

/-- Writing a date changes nothing. -/
theorem runOn_writeStamp (stamp : ZonedTimestamp) (session : Session) :
    runOn (writeStamp stamp) session = (dateAnswer session.formatter stamp, session) := by
  rw [writeStamp, runOn_bind, runOn_get]
  dsimp only
  rw [DateFormat.Formatter.format_toTimestamp, dateAnswer]
  cases session.formatter.encodingError? <;> rfl

/-- A date leaves the timestamp of the call and the formatter that it chooses behind, also if it
fails because the one cannot be written by the other. -/
theorem runOn_resolveDate_of_made {zone : Zone} {context : Context} {stamp : ZonedTimestamp}
    (made : ZonedTimestamp.ofMillis zone context.parent.creationMillis = .ok stamp)
    (argument : Option Text) (session : Session) :
    ∃ log, runOn (resolveDate zone context argument) session =
      (dateAnswer (chosenFormatter session.formatter argument) stamp,
        { session with
          timestamp := some stamp
          formatter := chosenFormatter session.formatter argument
          log }) := by
  simp only [resolveDate, made]
  cases argument with
  | none => exact ⟨session.log, runOn_writeStamp stamp _⟩
  | some text =>
      simp only [chosenFormatter]
      cases DateFormat.Pattern.parse text with
      | ok pattern => exact ⟨_, runOn_writeStamp stamp _⟩
      | error error => exact ⟨_, runOn_writeStamp stamp _⟩

/-- A date gives the timestamp of the call in the formatter that it chooses, if nothing stands in
the way of writing by it, and leaves both behind. -/
theorem runOn_resolveDate_of_ok {zone : Zone} {context : Context} {stamp : ZonedTimestamp}
    (made : ZonedTimestamp.ofMillis zone context.parent.creationMillis = .ok stamp)
    {argument : Option Text} {session : Session}
    (encodable : (chosenFormatter session.formatter argument).IsEncodable) :
    ∃ log, runOn (resolveDate zone context argument) session =
      (.ok (some ((chosenFormatter session.formatter argument).write stamp)),
        { session with
          timestamp := some stamp
          formatter := chosenFormatter session.formatter argument
          log }) := by
  obtain ⟨log, ran⟩ := runOn_resolveDate_of_made made argument session
  exact ⟨log, ran.trans (by rw [dateAnswer_of_isEncodable encodable])⟩

/-- What reports, redactions, look-ups and new timestamps keep, every answer keeps. -/
theorem Keeps.resolve {relation : Session → Session → Prop} (drift : Drift relation)
    (dated : ∀ session timestamp formatter log,
      relation session { session with timestamp, formatter, log })
    (zone : Zone) (context : Context) (target : Reference) :
    Keeps relation (Naming.resolve zone context target) := by
  by_cases date : Variable.ofName? target.name = some .date
  · intro session
    have same : Naming.resolve zone context target = resolveDate zone context target.argument := by
      unfold Naming.resolve
      rw [date]
    rw [same]
    cases made : ZonedTimestamp.ofMillis zone context.parent.creationMillis with
    | error error =>
        rw [runOn_resolveDate_of_error made]
        exact drift.refl session
    | ok stamp =>
        obtain ⟨log, ran⟩ := runOn_resolveDate_of_made made target.argument session
        rw [ran]
        exact dated session _ _ log
  · exact Keeps.resolve_of_ne_date drift zone context date

/-- Whether anything tells about the subscriptions of the device does not change, and the device is
behind some more questions. -/
def MovesOn (before behind : Session) : Prop :=
  ∃ count, behind.device = before.device.map (Device.after count)

/-- A session with the same device has moved on by no question. -/
theorem MovesOn.of_same {before behind : Session} (same : behind.device = before.device) :
    MovesOn before behind := by
  refine ⟨0, ?_⟩
  rw [same]
  cases before.device <;> rfl

/-- All that an evaluation does moves on by some number of questions. -/
theorem MovesOn.drift : Drift MovesOn where
  refl _ := .of_same rfl
  trans := by
    rintro first second third ⟨before, asked⟩ ⟨more, again⟩
    refine ⟨more + before, ?_⟩
    rw [again, asked, Option.map_map]
    exact congrArg (Option.map · first.device) (funext fun device => device.after_after before more)
  hide _ _ _ := .of_same rfl
  ask _ := ⟨1, rfl⟩
  lookUp _ _ _ _ := .of_same rfl

/-- An answer may put questions to the device, and does nothing else to it. -/
theorem movesOn_resolve (zone : Zone) (context : Context) (target : Reference) :
    Keeps MovesOn (resolve zone context target) :=
  Keeps.resolve MovesOn.drift (fun _ _ _ _ => .of_same rfl) zone context target

end RecordingName.Naming
