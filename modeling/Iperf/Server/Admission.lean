import Iperf.Server.LifeCycle

/-!
# Admitted streams

A data connection is welcomed by the accept loop, handed over through the
mailbox, and registered by the controller.  The three lists of streams agree up
to what is still on its way, in order; they fall apart only when the mailbox
loses a hand-off or the controller ends.
-/

namespace Iperf

open Channel Transition

/-- The connection a message hands over. -/
def ControllerMessage.handedOver : ControllerMessage → Option TcpStream
  | .createStream stream => some stream
  | _ => none

/-- The connections handed over by a list of messages. -/
def creates (messages : List ControllerMessage) : List TcpStream :=
  messages.filterMap ControllerMessage.handedOver

@[simp]
theorem creates_nil : creates [] = [] :=
  rfl

@[simp]
theorem creates_append (first second : List ControllerMessage) :
    creates (first ++ second) = creates first ++ creates second :=
  List.filterMap_append

@[simp]
theorem creates_createStream (stream : TcpStream) (rest : List ControllerMessage) :
    creates (.createStream stream :: rest) = stream :: creates rest :=
  rfl

@[simp]
theorem creates_streamTerminated (id : Nat) (rest : List ControllerMessage) :
    creates (.streamTerminated id :: rest) = creates rest :=
  rfl

@[simp]
theorem creates_terminate (rest : List ControllerMessage) :
    creates (.terminate :: rest) = creates rest :=
  rfl

theorem creates_mono {first second : List ControllerMessage} (earlier : first <+: second) :
    creates first <+: creates second := by
  obtain ⟨rest, rfl⟩ := earlier
  rw [creates_append]
  exact List.prefix_append _ _

/-- The connection the accept loop has welcomed and not handed over yet. -/
def AcceptPc.welcomed : AcceptPc → List TcpStream
  | .handingOff inbound => [inbound.stream]
  | _ => []

def Reply.welcomedStream : TcpStream × Reply → Option TcpStream
  | (stream, .welcome) => some stream
  | (_, .inFlight) => none

/-- The connections that have been answered with `Welcome`. -/
def Server.welcomed (server : Server) : List TcpStream :=
  server.replies.filterMap Reply.welcomedStream

namespace Controller

variable {controller next : Controller}

/-- The registered streams are those the mailbox has handed over. -/
structure Enrolled (controller : Controller) : Prop where
  enrolled : controller.tasks.map Task.stream <+: creates controller.received
  running : controller.alive = true →
    controller.tasks.map Task.stream = creates controller.received

theorem new_enrolled (build : Build) (perf : Perf) : (new build perf).Enrolled :=
  ⟨List.prefix_refl _, fun _ => rfl⟩

private theorem Enrolled.keep (enrolled : controller.Enrolled)
    (running : controller.alive = true) (tasks : next.tasks = controller.tasks)
    (received : creates next.received = creates controller.received) : next.Enrolled := by
  have same := enrolled.running running
  constructor
  · rw [tasks, received, same]
  · intro _
    rw [tasks, received, same]

private theorem Enrolled.add (enrolled : controller.Enrolled)
    (running : controller.alive = true) {stream : TcpStream}
    (tasks : next.tasks = controller.tasks ++ [controller.newTask stream])
    (received : next.received = controller.received ++ [.createStream stream]) :
    next.Enrolled := by
  have same : next.tasks.map Task.stream = creates next.received := by
    rw [tasks, received, List.map_append, creates_append, enrolled.running running]
    rfl
  exact ⟨same ▸ List.prefix_refl _, fun _ => same⟩

theorem Enrolled.move (enrolled : controller.Enrolled) (phased : controller.Phased)
    (move : Move controller next) : next.Enrolled := by
  have running := move.alive
  have fits := phased.fits
  cases move with
  | close next closes =>
      exact enrolled.keep running closes.tasks (congrArg creates closes.received)
  | finish next ends =>
      obtain ⟨ending, pc⟩ := ends.pc
      have gone : next.alive = true → next.tasks.map Task.stream = creates next.received :=
        fun stays => by simp [alive_of_pc_ended pc] at stays
      rcases ends.tasks with tasks | ⟨stream, tasks, ⟨total, greeting⟩ | ⟨-, -, received⟩⟩
      · constructor
        · rw [tasks, enrolled.running running]
          rcases ends.received with same | ⟨message, rest, -, received⟩
          · rw [same]
          · rw [received, creates_append]
            exact List.prefix_append _ _
        · exact gone
      · rw [greeting] at fits
        exact fits.elim
      · exact enrolled.add running tasks received
  | recvCreate stream mailbox total pc role head needed =>
      exact enrolled.add running rfl rfl
  | greeted total stream pc => rw [pc] at fits; exact fits.elim
  | recvTerminated id index mailbox pc head found =>
      exact enrolled.keep running rfl (by simp)
  | recvStray id mailbox pc head missing => exact enrolled.keep running rfl (by simp)
  | recvTerminate mailbox pc head => exact enrolled.keep running rfl (by simp)
  | _ => exact enrolled.keep running rfl rfl

theorem Enrolled.taskMove {index : Nat} {event : TaskEvent} (enrolled : controller.Enrolled)
    (move : TaskMove controller index event next) : next.Enrolled := by
  constructor
  · rw [move.streams, move.frame.received]
    exact enrolled.enrolled
  · unfold alive
    rw [move.streams, move.frame.received, move.frame.pc]
    exact enrolled.running

theorem Enrolled.outside (enrolled : controller.Enrolled)
    (outside : Outside controller next) : next.Enrolled := by
  constructor
  · rw [outside.tasks, outside.received]
    exact enrolled.enrolled
  · unfold alive
    rw [outside.tasks, outside.received, outside.pc]
    exact enrolled.running

end Controller

namespace Server

variable {json : Json} {server next : Server} {event : ServerEvent}

/-- The welcomed connections are handed over and registered in order. -/
structure Admitted (server : Server) : Prop where
  enrolled : server.test.Enrolled
  handed : (creates server.test.accepted ++ server.accept.welcomed).Sublist server.welcomed
  kept : server.test.alive = true → creates server.test.lost = [] →
    creates server.test.accepted ++ server.accept.welcomed = server.welcomed

theorem new_admitted (build : Build) (perf : Perf) : (new build perf).Admitted where
  enrolled := Controller.new_enrolled build perf
  handed := List.Sublist.refl _
  kept := fun _ _ => rfl

/-- A step that hands nothing over, or drops what was handed over as the
controller ends. -/
private theorem Admitted.quiet (admitted : server.Admitted)
    (enrolled : next.test.Enrolled)
    (accepted : creates next.test.accepted = creates server.test.accepted ∨
      (next.test.alive = false ∧
        creates next.test.accepted <+: creates server.test.accepted))
    (alive : next.test.alive = true → server.test.alive = true)
    (lost : creates next.test.lost = creates server.test.lost)
    (accept : next.accept.welcomed = server.accept.welcomed)
    (welcomed : next.welcomed = server.welcomed) : next.Admitted where
  enrolled := enrolled
  handed := by
    rw [accept, welcomed]
    rcases accepted with same | ⟨-, earlier⟩
    · rw [same]
      exact admitted.handed
    · exact (earlier.sublist.append_right _).trans admitted.handed
  kept := by
    intro stays none
    rw [accept, welcomed]
    rcases accepted with same | ⟨gone, -⟩
    · rw [same]
      exact admitted.kept (alive stays) (lost ▸ none)
    · rw [gone] at stays
      cases stays

private theorem Admitted.controllerMove (admitted : server.Admitted)
    (phased : server.Phased) {test : Controller} (move : Controller.Move server.test test) :
    Admitted { server with test } := by
  apply admitted.quiet (admitted.enrolled.move phased.test move)
  · rcases move.accepted with same | added | ⟨gone, earlier⟩
    · exact .inl (congrArg creates same)
    · left
      simp only [added, creates_append, creates_terminate, creates_nil, List.append_nil]
    · exact .inr ⟨gone, creates_mono earlier⟩
  · exact fun _ => move.alive
  · rcases move.lost with same | added
    · exact congrArg creates same
    · simp only [added, creates_append, creates_terminate, creates_nil, List.append_nil]
  · rfl
  · rfl

/-- A full mailbox loses the message that was to be sent, and no other. -/
theorem posts_lost {controller : Controller} {message : ControllerMessage}
    {mailbox : Queue ControllerMessage internalPortBuffer} {lost : List ControllerMessage}
    (posts : Controller.Posts controller message mailbox lost) :
    lost = controller.lost ∨ lost = controller.lost ++ [message] := by
  cases posts with
  | sent alive items kept => exact .inl kept
  | full alive full same logged => exact .inr logged
  | gone gone same kept => exact .inl kept

private theorem Admitted.taskMove (admitted : server.Admitted) {test : Controller}
    {index : Nat} {event : TaskEvent}
    (move : Controller.TaskMove server.test index event test) :
    Admitted { server with test } := by
  apply admitted.quiet (admitted.enrolled.taskMove move)
  · left
    rcases move.accepted with same | ⟨task, result, -, -, -, -, -, added⟩
    · exact congrArg creates same
    · simp only [added, creates_append, creates_streamTerminated, creates_nil,
        List.append_nil]
  · unfold Controller.alive
    rw [move.frame.pc]
    exact fun stays => stays
  · rcases move.mailbox with ⟨-, lost⟩ | ⟨task, result, -, -, -, -, -, posts⟩
    · exact congrArg creates lost
    · rcases posts_lost posts with same | added
      · exact congrArg creates same
      · simp only [added, creates_append, creates_streamTerminated, creates_nil,
          List.append_nil]
  · rfl
  · rfl

private theorem Admitted.acceptMove (admitted : server.Admitted)
    (move : AcceptMove json server event next) : next.Admitted := by
  have enrolled := admitted.enrolled.outside move.outside
  have handed := admitted.handed
  have kept := admitted.kept
  cases move with
  | welcome inbound pc =>
      rw [pc] at handed kept
      simp only [AcceptPc.welcomed, List.append_nil] at handed kept
      have welcomed : Server.welcomed { server with
          accept := .handingOff inbound
          replies := server.replies ++ [(inbound.stream, .welcome)] } =
          server.welcomed ++ [inbound.stream] := List.filterMap_append
      constructor
      · exact enrolled
      · rw [welcomed]
        exact handed.append (List.Sublist.refl _)
      · intro stays none
        rw [welcomed, ← kept stays none]
        rfl
  | handOff inbound mailbox lost pc posts =>
      rw [pc] at handed kept
      simp only [AcceptPc.welcomed] at handed kept
      constructor
      · exact enrolled
      · apply List.Sublist.trans _ handed
        simp only [AcceptPc.welcomed, List.append_nil]
        rcases posts.accepted with same | added
        · exact (congrArg creates same).symm ▸ List.sublist_append_left _ _
        · exact (congrArg creates added).trans (creates_append _ _) ▸ List.Sublist.refl _
      · intro stays none
        simp only [AcceptPc.welcomed, List.append_nil]
        change creates (server.test.received ++ mailbox.items) = server.welcomed
        cases posts with
        | sent alive items same =>
            rw [← kept stays (same ▸ none)]
            simp [Controller.accepted, items]
        | full alive full same logged => simp [logged] at none
        | gone gone =>
            change server.test.alive = true at stays
            rw [gone] at stays
            cases stays
  | refuse inbound holds delivered replies pc answer =>
      apply admitted.quiet enrolled (.inl rfl) (fun stays => stays) rfl
      · rw [pc]
        rfl
      · rcases answer with same | added
        · simp only [Server.welcomed, same]
        · simp [Server.welcomed, added, Reply.welcomedStream]
  | terminate error mailbox lost pc posts =>
      apply admitted.quiet enrolled
      · left
        rcases posts.accepted with same | added
        · exact congrArg creates same
        · exact (congrArg creates added).trans (by simp)
      · exact fun stays => stays
      · rcases posts_lost posts with same | added
        · exact congrArg creates same
        · simp [added]
      · rw [pc]
        rfl
      · rfl
  | accept inbound pc alive | lookCreateStreams inbound cookie pc | lookOther inbound pc
  | hello inbound cookie pc | otherCookie inbound cookie other pc | noHello inbound cookie e pc
  | crash inbound cookie pc | unwelcome inbound pc | stop pc =>
      exact admitted.quiet enrolled (.inl rfl) (fun stays => stays) rfl (by rw [pc]; rfl) rfl

theorem Admitted.step (admitted : server.Admitted)
    (phased : server.Phased) (step : server.step json event = some next) :
    next.Admitted := by
  cases move_of_step step with
  | controller event test move => exact admitted.controllerMove phased move
  | task index event test move => exact admitted.taskMove move
  | ctrlC quiet =>
      exact admitted.quiet
        (admitted.enrolled.outside (Controller.outside_of_fields _ _ _ _ _)) (.inl rfl)
        (fun stays => stays) rfl rfl rfl
  | accept event next move => exact admitted.acceptMove move

theorem admitted_of_reachable {build : Build} {perf : Perf} (role : perf.role = .server)
    (reachable : Reachable (Server.step json) (new build perf) server) :
    server.Admitted := by
  have both : server.Phased ∧ server.Admitted := by
    apply reachable.invariant (fun server => server.Phased ∧ server.Admitted) _
      ⟨new_phased build role, new_admitted build perf⟩
    intro source event target holds step
    exact ⟨holds.1.step step, holds.2.step holds.1 step⟩
  exact both.2

/-- Registered streams have been welcomed. -/
theorem Admitted.length_le (admitted : server.Admitted) :
    server.test.tasks.length ≤ server.welcomed.length := by
  have registered := admitted.enrolled.enrolled.length_le
  have handed := admitted.handed.length_le
  simp only [Controller.accepted, creates_append, List.length_append, List.length_map] at *
  omega

end Server

end Iperf
