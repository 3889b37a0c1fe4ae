import Linkage.Session

/-! What an action does to a session, step by step: it gives a value and goes on, or it stops; either way a session is
left. Telling things never stops a run. A run that stops either fails with an error or ends with an exit code, when it
has told what is wrong. -/

namespace Linkage.Session
variable {α β : Type} {session later : Session} {action : Action α} {next : α → Action β} {value : α} {error : Error}

/-- The value of an action or why it stopped, and the session that it leaves. -/
def perform (session : Session) (action : Action α) : Except Stop α × Session :=
  (ExceptT.run action).run session

theorem perform_bind (action : Action α) (next : α → Action β) :
    session.perform (action >>= next) = match session.perform action with
      | (.ok value, later) => later.perform (next value)
      | (.error stop, later) => (.error stop, later) := by
  unfold perform
  rw [ExceptT.run_bind, StateT.run_bind]
  cases done : StateT.run (ExceptT.run action) session with
  | mk result later => cases result <;> rfl

theorem perform_bind_of_ok (done : session.perform action = (.ok value, later)) :
    session.perform (action >>= next) = later.perform (next value) := by
  rw [perform_bind, done]

@[simp]
theorem perform_pure (value : α) : session.perform (pure value) = (.ok value, session) :=
  rfl

@[simp]
theorem perform_get : session.perform get = (.ok session, session) :=
  rfl

@[simp]
theorem perform_stop (code : Nat) : session.perform (stop code : Action α) = (.error (.exit code), session) :=
  rfl

theorem perform_stop_bind (code : Nat) :
    session.perform (stop code >>= next) = (.error (.exit code), session) :=
  rfl

@[simp]
theorem perform_require_ok (value : α) : session.perform (require (.ok value)) = (.ok value, session) :=
  rfl

@[simp]
theorem perform_require_error (error : Error) :
    session.perform (require (.error error) : Action α) = (.error (.failure error), session) :=
  rfl

theorem perform_change_ok (files : Files) :
    session.perform (change (.ok files)) = (.ok (), { session with files }) :=
  rfl

/-- The session after some more notices of one kind. -/
def telling (session : Session) (kind : NoticeKind) (texts : List String) : Session :=
  { session with log := session.log ++ texts.map fun text => (session.mode, ⟨kind, text⟩) }

section
variable {kind : NoticeKind}

theorem perform_tell (kind : NoticeKind) (text : String) :
    session.perform (tell kind text) = (.ok (), session.telling kind [text]) :=
  rfl

theorem telling_append (texts others : List String) :
    (session.telling kind texts).telling kind others = session.telling kind (texts ++ others) := by
  simp [telling]

/-- Texts that are told one by one, each as what it looks like. -/
theorem perform_forM_tell (kind : String → NoticeKind) (texts : List String) :
    session.perform (texts.forM fun text => tell (kind text) text) =
      (.ok (), { session with log := session.log ++ texts.map fun text => (session.mode, ⟨kind text, text⟩) }) := by
  induction texts generalizing session with
  | nil => rw [List.map_nil, List.append_nil]; rfl
  | cons text rest ih =>
    have first := session.perform_tell (kind text) text
    refine (perform_bind_of_ok first).trans ?_
    rw [ih, telling, List.append_assoc]
    rfl

theorem perform_tellAll (texts : List String) :
    session.perform (tellAll kind texts) = (.ok (), session.telling kind texts) :=
  perform_forM_tell (fun _ => kind) texts

end

/-- The action goes on from every session. -/
def GoesOn (action : Action α) : Prop :=
  ∀ session, ∃ value later, perform session action = (.ok value, later)

theorem GoesOn.bind (first : GoesOn action) (second : ∀ value, GoesOn (next value)) : GoesOn (action >>= next) := by
  intro session
  obtain ⟨middle, later, done⟩ := first session
  obtain ⟨value, last, finished⟩ := second middle later
  exact ⟨value, last, (perform_bind_of_ok done).trans finished⟩

theorem goesOn_pure (value : α) : GoesOn (pure value) :=
  fun session => ⟨value, session, rfl⟩

theorem goesOn_get : GoesOn get :=
  fun session => ⟨session, session, rfl⟩

theorem goesOn_modify (f : Session → Session) : GoesOn (modify f) :=
  fun session => ⟨(), f session, rfl⟩

theorem goesOn_forM {xs : List α} {each : α → Action PUnit} (goesOn : ∀ x ∈ xs, GoesOn (each x)) :
    GoesOn (xs.forM each) := by
  induction xs with
  | nil => exact goesOn_pure _
  | cons x rest ih =>
    obtain ⟨first, others⟩ := List.forall_mem_cons.mp goesOn
    exact first.bind fun _ => ih others

theorem goesOn_foldlM {each : β → α → Action β} (goesOn : ∀ state x, GoesOn (each state x)) (xs : List α)
    (start : β) : GoesOn (xs.foldlM each start) := by
  induction xs generalizing start with
  | nil => exact goesOn_pure start
  | cons x rest ih =>
    rw [List.foldlM_cons]
    exact (goesOn start x).bind ih

theorem goesOn_tell (kind : NoticeKind) (text : String) : GoesOn (tell kind text) :=
  goesOn_modify _

theorem goesOn_tellAll (kind : NoticeKind) (texts : List String) : GoesOn (tellAll kind texts) :=
  goesOn_forM fun text _ => goesOn_tell kind text

/-- The action ends with an error, and not just with an exit code. -/
def Fails (session : Session) (action : Action α) (error : Error) : Prop :=
  (session.perform action).1 = .error (.failure error)

theorem fails_bind_iff : session.Fails (action >>= next) error ↔ session.Fails action error ∨
    ∃ value later, session.perform action = (.ok value, later) ∧ later.Fails (next value) error := by
  unfold Fails
  rw [perform_bind]
  split
  next middle later done => simp [done, and_assoc]
  next stop later done => simp [done]

theorem fails_bind_of_ok (done : session.perform action = (.ok value, later)) :
    session.Fails (action >>= next) error ↔ later.Fails (next value) error := by
  rw [Fails, perform_bind_of_ok done, Fails]

theorem fails_require_iff {result : Except Error α} : session.Fails (require result) error ↔ result = .error error := by
  cases result with
  | ok value => simp [Fails]
  | error reason => simp [Fails]

/-- The action ends with an exit code at worst. -/
def Unfailing (action : Action α) : Prop :=
  ∀ session error, ¬ Fails session action error

theorem Unfailing.not_fails (unfailing : Unfailing action) : ¬ session.Fails action error :=
  unfailing session error

theorem GoesOn.unfailing (goesOn : GoesOn action) : Unfailing action := by
  intro session error fails
  obtain ⟨value, later, done⟩ := goesOn session
  simp [Fails, done] at fails

theorem unfailing_stop (code : Nat) : Unfailing (stop code : Action α) := by
  intro session error fails
  simp [Fails] at fails

theorem Unfailing.bind (first : Unfailing action) (second : ∀ value, Unfailing (next value)) :
    Unfailing (action >>= next) := by
  intro session error fails
  rcases fails_bind_iff.mp fails with failed | ⟨value, later, -, failed⟩
  · exact first session error failed
  · exact second value later error failed

/-- The first step is only taken sometimes. -/
theorem Unfailing.optional {p : Prop} [Decidable p] {action : Action PUnit} {next : PUnit → Action β}
    (first : Unfailing action) (second : Unfailing (next ⟨⟩)) : Unfailing (if p then action >>= next else next ⟨⟩) := by
  split
  · exact first.bind fun _ => second
  · exact second

end Linkage.Session
