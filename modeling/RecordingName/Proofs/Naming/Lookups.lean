import RecordingName.Proofs.Contacts.PartyNames
import RecordingName.Proofs.Naming.Changes
import RecordingName.Proofs.Naming.Standard

/-!
# Look-ups of a rendering

Only a reference to the names of contacts looks something up, and only where it may wait. Then it
makes an enquiry about one party after the other, by `runOn_resolveContactName`, and the look-ups of
these are `Context.sought`. `looksUp_render` says that a rendering makes the look-ups of the
references that it comes to, each with the directory that those before have left. A look-up that
fails leaves out the name that it was made for, and no other one.
-/

namespace RecordingName.Naming

open Contacts Template

variable {α : Type} {zone : Zone} {context : Context} {target : Reference} {party : Details}
  {session : Session}

/-- From one session to another, some look-ups have been made. -/
def LooksUp (made : List Lookup) (before behind : Session) : Prop :=
  behind.lookups = before.lookups ++ made

namespace LooksUp

variable {made other : List Lookup} {first second third : Session}

theorem refl (session : Session) : LooksUp [] session session :=
  (List.append_nil _).symm

theorem trans (looksUp : LooksUp made first second) (onwards : LooksUp other second third) :
    LooksUp (made ++ other) first third := by
  rw [LooksUp, onwards, looksUp, List.append_assoc]

/-- Nothing is looked up by a report. -/
theorem reported (looksUp : LooksUp made first second) (log : List LogEntry) :
    LooksUp made first { second with log } :=
  looksUp

end LooksUp

/-- An evaluation looks nothing up. -/
def Spares (work : Evaluation α) : Prop :=
  ∀ session, LooksUp [] session (runOn work session).2

namespace Spares

/-- Programs that spare the directory spare it together. -/
theorem composable : Composable fun _ work => Spares work where
  pure _ := LooksUp.refl
  bind {_ _ work next} first second session := by
    have before := first session
    rw [runOn_bind]
    rcases ran : runOn work session with ⟨result, middle⟩
    rw [ran] at before
    cases result with
    | ok value => exact before.trans (second value middle)
    | error fault => exact before
  report _ _ _ session := (LooksUp.refl session).reported _
  hide _ _ session := LooksUp.refl session

/-- Questions to the device spare the directory. -/
theorem ask (question : Subscriptions → Except Text α) : Spares (Naming.ask question) := by
  intro session
  rw [runOn_ask]
  exact LooksUp.refl session

/-- Dates spare the directory. -/
theorem resolveDate (zone : Zone) (context : Context) (argument : Option Text) :
    Spares (Naming.resolveDate zone context argument) := by
  intro session
  cases made : ZonedTimestamp.ofMillis zone context.parent.creationMillis with
  | error error =>
      rw [runOn_resolveDate_of_error made]
      exact LooksUp.refl session
  | ok stamp =>
      obtain ⟨log, answered⟩ := runOn_resolveDate_of_made made argument session
      rw [answered]
      exact LooksUp.refl session

/-- Without waiting, nothing is looked up. -/
theorem resolve (zone : Zone) (immediate : context.mayBlock = false) (target : Reference) :
    Spares (Naming.resolve zone context target) := by
  by_cases dated : target.name = Variable.date.name
  · rw [resolve_of_date dated]
    exact resolveDate zone context target.argument
  · exact composable.resolve_of_ne_date
      (composable.simSlot (ask _) (ask _) (ask _) (ask _))
      (composable.lookUpContact_of_immediate immediate)
      fun found => dated (Variable.ofName?_eq_some_iff.1 found)

end Spares

/-- Only a name of a contact depends on whether an answer may wait. -/
theorem resolve_immediate (other : target.name ≠ Variable.contactName.name) (zone : Zone)
    (context : Context) :
    Naming.resolve zone context target =
      Naming.resolve zone { context with mayBlock := false } target := by
  unfold Naming.resolve
  split
  · rfl
  · rfl
  · rfl
  · rfl
  · rfl
  · rfl
  next contact => exact absurd (Variable.ofName?_eq_some_iff.1 contact) other

/-- The answer to the question for a name, from the enquiry about it. -/
def nameAnswer (enquired : Except StatusFailure Enquiry) : Except Fault (Option Text) :=
  (enquired.map Enquiry.name?).mapError .directory

/-- The look-ups of an enquiry, if the directory has told whether they are possible. -/
def madeBy (enquired : Except StatusFailure Enquiry) : List Lookup :=
  (enquired.toOption.bind Enquiry.lookup?).toList

section Blocking

variable (blocking : context.mayBlock = true)
include blocking

/-- A name that has not come with the call is that of the enquiry. -/
theorem runOn_lookUpContact (unnamed : party.contactName = none) (session : Session) :
    ∃ behind, runOn (lookUpContact context party) session =
        (nameAnswer (session.directory.enquire party).1, behind) ∧
      behind.directory = (session.directory.enquire party).2 ∧
      LooksUp (madeBy (session.directory.enquire party).1) session behind := by
  unfold lookUpContact
  rw [blocking, Bool.not_true, if_neg Bool.false_ne_true, runOn_bind, runOn_get]
  dsimp only
  rw [runOn_bind, runOn_modify, Directory.enquire, unnamed]
  dsimp only
  rcases asked : session.directory.isConfigured with ⟨status, directory⟩
  cases status with
  | error failure => exact ⟨_, rfl, rfl, LooksUp.refl session⟩
  | ok configured =>
      cases configured with
      | false => exact ⟨_, rfl, rfl, LooksUp.refl session⟩
      | true =>
          cases numbered : party.phoneNumber? with
          | none =>
              have without : party.lookup? = none := by
                rw [Details.lookup?, unnamed, numbered]
                rfl
              rw [without]
              exact ⟨_, rfl, rfl, LooksUp.refl session⟩
          | some number =>
              have sought : party.lookup? = some ⟨number, isSipAddress number⟩ := by
                rw [Details.lookup?, unnamed, numbered]
                rfl
              rw [sought]
              dsimp only
              rcases answered : directory.lookup number (isSipAddress number) with
                ⟨answer, behind, log⟩
              simp only [pure_bind, Bool.not_true, Bool.false_eq_true, if_false, runOn_bind,
                runOn_report, runOn_get, runOn_modify, answered]
              cases answer with
              | found name => exact ⟨_, rfl, rfl, rfl⟩
              | notFound => exact ⟨_, rfl, rfl, rfl⟩
              | failed => exact ⟨_, rfl, rfl, rfl⟩

/-- The name of a party is that of the enquiry. -/
theorem runOn_contactName (party : Details) (session : Session) :
    ∃ behind, runOn (contactName context party) session =
        (nameAnswer (session.directory.enquire party).1, behind) ∧
      behind.directory = (session.directory.enquire party).2 ∧
      LooksUp (madeBy (session.directory.enquire party).1) session behind := by
  unfold contactName
  cases named : party.contactName with
  | some name =>
      rw [Directory.enquire, named]
      exact ⟨session, rfl, rfl, LooksUp.refl session⟩
  | none =>
      dsimp only
      split
      · rw [runOn_bind, runOn_report]
        exact runOn_lookUpContact blocking named { session with log := session.log ++
          [⟨.warning, .variables, "Contact display name missing in conference child call".text⟩] }
      · exact runOn_lookUpContact blocking named session

/-- The names of parties are those of the enquiries about them, unless the directory does not tell
whether look-ups are possible. -/
theorem runOn_mapM_contactName (parties : List Details) (session : Session) :
    ∃ behind, runOn (parties.mapM (contactName context)) session =
        ((session.directory.enquiries parties).failure.elim
          (.ok ((session.directory.enquiries parties).made.map Enquiry.name?))
          (.error ∘ .directory), behind) ∧
      LooksUp (session.directory.enquiries parties).lookups session behind := by
  induction parties generalizing session with
  | nil => exact ⟨session, rfl, LooksUp.refl session⟩
  | cons party rest ih =>
      obtain ⟨middle, named, directory, looksUp⟩ := runOn_contactName blocking party session
      rw [List.mapM_cons, runOn_bind, named]
      rcases enquired : session.directory.enquire party with ⟨result, asked⟩
      rw [enquired] at directory looksUp
      cases result with
      | error failure =>
          rw [Directory.enquiries_cons_of_error enquired]
          exact ⟨middle, rfl, looksUp⟩
      | ok enquiry =>
          obtain ⟨behind, ran, onwards⟩ := ih middle
          rw [directory] at ran onwards
          rw [Directory.enquiries_cons_of_ok enquired]
          refine ⟨behind, ?_, ?_⟩
          · change runOn (rest.mapM (contactName context) >>= fun names =>
              pure (enquiry.name? :: names)) middle = _
            rw [runOn_bind, ran]
            cases (asked.enquiries rest).failure <;> rfl
          · have made := looksUp.trans onwards
            rw [Enquiries.lookups, List.filterMap_cons]
            cases sought : enquiry.lookup? with
            | none =>
                rw [madeBy, Except.toOption, Option.bind_some, sought] at made
                exact made
            | some lookup =>
                rw [madeBy, Except.toOption, Option.bind_some, sought] at made
                exact made

/-- A reference to the names of contacts gives the names of the enquiries about the parties, trimmed,
without blank ones, each of them once, unless the directory does not tell whether look-ups are
possible. The look-ups are those of the enquiries. -/
theorem runOn_resolveContactName (session : Session) :
    ∃ result behind, runOn (resolveContactName context) session = (result, behind) ∧
      LooksUp (session.directory.enquiries context.parties).lookups session behind ∧
      (∀ failure, (session.directory.enquiries context.parties).failure = some failure →
        result = .error (.directory failure)) ∧
      ((session.directory.enquiries context.parties).failure = none →
        ∃ value, result = .ok value ∧ value.getD [] = Text.join [',']
          ((((session.directory.enquiries context.parties).names.map
            Text.strip).filter (· ≠ [])).eraseDups)) := by
  obtain ⟨middle, ran, looksUp⟩ := runOn_mapM_contactName blocking context.parties session
  unfold resolveContactName
  rw [runOn_bind, ran]
  cases told : (session.directory.enquiries context.parties).failure with
  | some failure =>
      refine ⟨_, middle, rfl, looksUp, fun other same => ?_, nofun⟩
      cases same
      rfl
  | none =>
      let joined := joinDistinct (((session.directory.enquiries context.parties).made.map
        Enquiry.name?).map fun name => name.map Text.strip)
      have spared := Spares.composable.handOut context joined "<contact name>".text
        "<conference contact names>".text middle
      obtain ⟨value, behind, handed⟩ := Succeeds.composable.handOut context joined
        "<contact name>".text "<conference contact names>".text middle
      rw [handed] at spared
      have made := looksUp.trans spared
      rw [List.append_nil] at made
      refine ⟨.ok value, behind, handed, made, nofun, fun _ => ⟨value, rfl, ?_⟩⟩
      have trimmed : (((session.directory.enquiries context.parties).made.map
          Enquiry.name?).map fun name => name.map Text.strip).filterMap id =
            (session.directory.enquiries context.parties).names.map Text.strip := by
        rw [Enquiries.names, List.map_filterMap, List.map_map, List.filterMap_map]
        rfl
      rw [← trimmed]
      exact (knows_of_handOut handed).1

end Blocking

theorem resolve_of_contactName (contact : target.name = Variable.contactName.name) :
    resolve zone context target = resolveContactName context := by
  unfold resolve
  rw [Variable.ofName?_eq_some_iff.2 contact]

/-- The look-ups that an answer takes, with a directory: those of the enquiries about the parties, if
the names of contacts are asked for and the answer may wait. -/
def Context.sought (context : Context) (directory : Contacts.Directory) (target : Reference) :
    List Lookup :=
  if target.name = Variable.contactName.name ∧ context.mayBlock = true then
    (directory.enquiries context.parties).lookups
  else []

/-- An answer takes exactly the look-ups that it is said to take. -/
theorem looksUp_resolve (zone : Zone) (context : Context) (target : Reference) (session : Session) :
    LooksUp (context.sought session.directory target) session
      (runOn (resolve zone context target) session).2 := by
  rw [Context.sought]
  split
  next seeks =>
    obtain ⟨contact, blocking⟩ := seeks
    obtain ⟨result, behind, ran, looksUp, _⟩ := runOn_resolveContactName blocking session
    rw [resolve_of_contactName contact, ran]
    exact looksUp
  next spared =>
    have immediate : resolve zone context target =
        resolve zone { context with mayBlock := false } target := by
      by_cases contact : target.name = Variable.contactName.name
      · have still : context.mayBlock = false := by
          cases waits : context.mayBlock with
          | false => rfl
          | true => exact absurd ⟨contact, waits⟩ spared
        rw [← still]
      · exact resolve_immediate contact zone context
    rw [immediate]
    exact Spares.resolve zone rfl target session

/-- The references that a rendering comes to, one after the other, each with the session at which it
comes to it: all of them, or those up to the first one that has no answer. -/
def reached (answer : Reference → Evaluation (Option Text)) :
    List Segment → Session → List (Reference × Session)
  | [], _ => []
  | .literal _ :: rest, session => reached answer rest session
  | .reference target :: rest, session =>
      (target, session) ::
        match runOn (answer target) session with
        | (.ok _, behind) => reached answer rest behind
        | (.error _, _) => []

section Reached

variable {answer : Reference → Evaluation (Option Text)} {segments : List Segment}

/-- Only references of the template are reached. -/
theorem mem_of_mem_reached {come : Reference × Session}
    (member : come ∈ reached answer segments session) : .reference come.1 ∈ segments := by
  induction segments generalizing session with
  | nil => cases member
  | cons segment rest ih =>
      cases segment with
      | literal text => exact List.mem_cons_of_mem _ (ih member)
      | reference head =>
          rw [reached] at member
          rcases List.mem_cons.1 member with rfl | later
          · exact List.mem_cons_self ..
          · split at later
            · exact List.mem_cons_of_mem _ (ih later)
            · cases later

/-- A rendering that succeeds has come to all references. -/
theorem reached_of_rendered {rendering : Rendering} {behind : Session}
    (rendered : runOn (renderSegments answer segments) session = (.ok rendering, behind))
    (name : Text) :
    ((reached answer segments session).map Prod.fst).filter (·.name = name) =
      referencesTo name segments := by
  induction segments generalizing session rendering with
  | nil => rfl
  | cons segment rest ih =>
      cases segment with
      | literal text =>
          obtain ⟨following, after_head, _⟩ := runOn_render_literal.1 rendered
          exact ih after_head
      | reference target =>
          obtain ⟨value, middle, following, answered, after_head, _⟩ :=
            runOn_render_reference.1 rendered
          rw [reached, answered, List.map_cons, List.filter_cons, ih after_head, referencesTo]
          simp only [decide_eq_true_eq]

end Reached

/-- A rendering takes the look-ups of the references that it comes to, one after the other. -/
theorem looksUp_render (zone : Zone) (context : Context) (segments : List Segment)
    (session : Session) :
    LooksUp ((reached (resolve zone context) segments session).flatMap fun come =>
        context.sought come.2.directory come.1)
      session (runOn (renderSegments (resolve zone context) segments) session).2 := by
  induction segments generalizing session with
  | nil => exact LooksUp.refl session
  | cons segment rest ih =>
      cases segment with
      | literal text =>
          rw [renderSegments, behind_bind_pure, reached]
          exact ih session
      | reference target =>
          have here := looksUp_resolve zone context target session
          rw [renderSegments, runOn_bind, reached, List.flatMap_cons]
          cases answered : runOn (resolve zone context target) session with
          | mk result middle =>
              rw [answered] at here
              cases result with
              | error fault =>
                  rw [List.flatMap_nil, List.append_nil]
                  exact here
              | ok value =>
                  dsimp only
                  rw [behind_bind_pure]
                  exact here.trans (ih middle)

end RecordingName.Naming
