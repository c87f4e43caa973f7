import Graftx.Loadtest.Calls
import Graftx.Obs.OrderFree

/-! The load generator: one client and one served Vulkan session, each on its own thread, and
any number of rounds of two calls. -/
namespace Graftx.Loadtest
open Graftx.Protocol Graftx.Obs Graftx.Server Graftx.Client Graftx.Handles Lib.Threads

def sessionId : UInt64 := 0x6C6F6164

def appApiVersion : UInt32 := 0x00403000

section
variable {T : Type} [Transport T]

def rounds : Nat → Client T → Except ClientError Unit
  | 0, _ => .ok ()
  | n + 1, client =>
    match client.vkCreateInstance appApiVersion with
    | (.error e, _) => .error e
    | (.ok inst, client) =>
      match client.vkEnumeratePhysicalDevices inst with
      | (.error e, _) => .error e
      | (.ok _, client) => rounds n client

/-- The transport is dropped at the end, so nothing is said of it. -/
def runClient (n : Nat) (clientEnd : T) : Except ClientError Unit :=
  match Client.connect clientEnd with
  | .error e => .error e
  | .ok client => rounds n client

end

def orElseFail {α β : Type} (c : Conversation (Except ClientError α))
    (f : α → Conversation (Except ClientError β)) : Conversation (Except ClientError β) :=
  c.bind fun
    | .error e => .done (.error e)
    | .ok a => f a

def createInstance (c : Counters) : Conversation (Except ClientError Handle) :=
  asking VkOp.createInstance VkOp.createInstance
    (Protocol.Vk.CreateInstanceRequest.encode { appApiVersion })
    (readHandle Protocol.Vk.CreateInstanceResponse.decode (·.inst) Vk.kindInstance)
    c.nextReqId c.nextSeq

def enumeratePhysicalDevices (c : Counters) (inst : Handle) :
    Conversation (Except ClientError (List Handle)) :=
  asking VkOp.enumeratePhysicalDevices VkOp.enumeratePhysicalDevices
    (Protocol.Vk.EnumeratePhysicalDevicesRequest.encode { inst })
    (readHandles Vk.kindPhysicalDevice) c.nextReqId c.nextSeq

def openSession : Conversation (Except ClientError Welcome) :=
  asking CoreOp.hello CoreOp.welcome hello.encode (fun b => fromProtocol (Welcome.decode b)) 1 1

def roundsTalk : Nat → Counters → Conversation (Except ClientError Unit)
  | 0, _ => .done (.ok ())
  | n + 1, c =>
    orElseFail (createInstance c) fun inst =>
      orElseFail (enumeratePhysicalDevices c.next inst) fun _ => roundsTalk n c.next.next

def clientTalk (n : Nat) : Conversation (Except ClientError Unit) :=
  orElseFail openSession fun welcome => roundsTalk n ⟨2, 2, welcome.sessionId⟩

section
variable {T : Type} [Transport T] {α β : Type}

theorem run_orElseFail_error {c : Conversation (Except ClientError α)}
    (f : α → Conversation (Except ClientError β)) {t t' : T} {e : ClientError}
    (h : c.run t = (.error e, t')) : (orElseFail c f).run t = (.error e, t') := by
  rw [orElseFail, Conversation.run_bind, h]
  rfl

theorem run_orElseFail_ok {c : Conversation (Except ClientError α)}
    (f : α → Conversation (Except ClientError β)) {t t' : T} {a : α}
    (h : c.run t = (.ok a, t')) : (orElseFail c f).run t = (f a).run t' := by
  rw [orElseFail, Conversation.run_bind, h]

theorem asks_orElseFail_ok {c : Conversation (Except ClientError α)}
    (f : α → Conversation (Except ClientError β)) {t t' : T} {a : α}
    (h : c.run t = (.ok a, t')) : (orElseFail c f).asks t = (f a).asks t' + c.asks t := by
  rw [orElseFail, Conversation.asks_bind, h]

theorem rounds_eq (n : Nat) (c : Counters) (t : T) :
    rounds n (c.over t) = ((roundsTalk n c).run t).1 := by
  induction n generalizing c t with
  | zero => rfl
  | succ n ih =>
    have hcreate : (c.over t).vkCreateInstance appApiVersion = (((createInstance c).run t).1,
      c.next.over ((createInstance c).run t).2) := issue_eq c t _ _ _
    rw [rounds, hcreate, roundsTalk]
    rcases h : (createInstance c).run t with ⟨result, t'⟩
    cases result with
    | error e => rw [run_orElseFail_error _ h]
    | ok inst =>
      have henum : (c.next.over t').vkEnumeratePhysicalDevices inst =
          (((enumeratePhysicalDevices c.next inst).run t').1,
            c.next.next.over ((enumeratePhysicalDevices c.next inst).run t').2) :=
        issue_eq c.next t' _ _ _
      rw [run_orElseFail_ok _ h]
      simp only [henum]
      rcases h' : (enumeratePhysicalDevices c.next inst).run t' with ⟨result, t''⟩
      cases result with
      | error e => rw [run_orElseFail_error _ h']
      | ok devices =>
        rw [run_orElseFail_ok _ h']
        exact ih c.next.next t''

theorem connect_ok {t t' : T} {welcome : Welcome} (h : openSession.run t = (.ok welcome, t')) :
    Client.connect t = .ok (Counters.over ⟨2, 2, welcome.sessionId⟩ t') := by
  have hrun : (asking CoreOp.hello CoreOp.welcome hello.encode
      (fun b => fromProtocol (Welcome.decode b)) 1 1).run t = (.ok welcome, t') := h
  rw [connect_eq, hrun]

theorem connect_error {t t' : T} {e : ClientError} (h : openSession.run t = (.error e, t')) :
    Client.connect t = .error e := by
  have hrun : (asking CoreOp.hello CoreOp.welcome hello.encode
      (fun b => fromProtocol (Welcome.decode b)) 1 1).run t = (.error e, t') := h
  rw [connect_eq, hrun]

theorem runClient_eq (n : Nat) (t : T) : runClient n t = ((clientTalk n).run t).1 := by
  rw [runClient, clientTalk]
  rcases h : openSession.run t with ⟨result, t'⟩
  cases result with
  | error e => rw [connect_error h, run_orElseFail_error _ h]
  | ok welcome =>
    rw [connect_ok h, run_orElseFail_ok _ h]
    exact rounds_eq n _ t'

end

def loadSession : Session := (Session.new sessionId).register (.vulkan .new)

/-- What `drive` returns when both threads have finished: an error of the client comes before
one of the loop. -/
def outcome (d : Duplex (Except ClientError Unit)) : Option (Except ClientError Unit) :=
  match d.client, d.server with
  | .finished (.error e), .finished _ => some (.error e)
  | .finished (.ok ()), .finished (.ok ()) => some (.ok ())
  | .finished (.ok ()), .finished (.error e) => some (.error (.transport e))
  | _, _ => none

/-- Both threads under a schedule; there is no outcome before both have finished. -/
def drive (n : Nat) (registry : ObsRegistry) (schedule : List Party) :
    Option (Except ClientError Unit) × ObsRegistry :=
  let d := run Duplex.move (Duplex.start (clientTalk n) loadSession registry) schedule
  (outcome d, d.registry)

/-- The instances of a load session: none is ever destroyed. -/
structure Undisturbed (t : HandleTable InstanceState) : Prop where
  free : t.free = []
  live : ∀ slot ∈ t.slots, slot.generation = 0 ∧ slot.value = some ⟨true⟩

theorem Undisturbed.insert {t : HandleTable InstanceState} (h : Undisturbed t) (kind : UInt8) :
    Undisturbed (t.insert kind ⟨true⟩).2 ∧
      (t.insert kind ⟨true⟩).2.get (t.insert kind ⟨true⟩).1 = some ⟨true⟩ := by
  obtain ⟨i, free, slot, hfree, -⟩ | ⟨-, hh, ⟨new, hg, -, hv, -, hs⟩, hfree⟩ :=
    t.insert_cases kind ⟨true⟩
  · rw [h.free] at hfree
    cases hfree
  · have hlive : Undisturbed (t.insert kind ⟨true⟩).2 := by
      refine ⟨hfree, fun slot hslot => ?_⟩
      rw [hs, List.mem_append, List.mem_singleton] at hslot
      rcases hslot with hslot | rfl
      · exact h.live slot hslot
      · exact ⟨hg, hv⟩
    refine ⟨hlive, ?_⟩
    have hlt : (UInt32.ofNat t.slots.length).toNat < (t.slots ++ [new]).length := by
      have hle : (UInt32.ofNat t.slots.length).toNat ≤ t.slots.length := by
        simpa using Nat.mod_le _ _
      rw [List.length_append]
      exact Nat.lt_succ_of_le hle
    have hfound := List.getElem?_eq_getElem hlt
    obtain ⟨hgen, hval⟩ := hlive.live _ (by rw [hs]; exact List.getElem_mem hlt)
    refine (HandleTable.get_eq_some _ _ _).mpr ⟨_, (HandleTable.lookup_eq_some _ _ _).mpr ⟨?_, ?_⟩,
      hval⟩
    · rw [hs, hh, Handle.slot_new, hfound]
    · rw [hgen, hh, Handle.generation_new]
      rfl

theorem handle_createInstance (b : VulkanBackend) (v : UInt32) :
    (AnyBackend.vulkan b).handle VkOp.createInstance
        (Protocol.Vk.CreateInstanceRequest.encode ⟨v⟩) =
      (.ok (Protocol.Vk.CreateInstanceResponse.encode ⟨(b.instances.insert 1 ⟨true⟩).1⟩),
        .vulkan { b with instances := (b.instances.insert 1 ⟨true⟩).2 }) := by
  have hreq : request VulkanBackend VkOp.createInstance
      (Protocol.Vk.CreateInstanceRequest.encode ⟨v⟩) = .ok (VkRequest.createInstance ⟨v⟩) :=
    request_toWire (B := VulkanBackend) (VkRequest.createInstance ⟨v⟩)
  exact congrArg (AnyBackend.wrap .vulkan) (handle_of_request_ok b _ _ _ hreq)

theorem handle_enumeratePhysicalDevices (b : VulkanBackend) (inst : Handle)
    (h : (b.instances.get inst).any (·.created)) :
    (AnyBackend.vulkan b).handle VkOp.enumeratePhysicalDevices
        (Protocol.Vk.EnumeratePhysicalDevicesRequest.encode ⟨inst⟩) =
      (.ok (Protocol.Vk.EnumeratePhysicalDevicesResponse.encode
          ⟨[(b.physicalDevices.insert 2 ⟨inst⟩).1]⟩),
        .vulkan { b with physicalDevices := (b.physicalDevices.insert 2 ⟨inst⟩).2 }) := by
  have hreq : request VulkanBackend VkOp.enumeratePhysicalDevices
      (Protocol.Vk.EnumeratePhysicalDevicesRequest.encode ⟨inst⟩) =
        .ok (VkRequest.enumeratePhysicalDevices ⟨inst⟩) :=
    request_toWire (B := VulkanBackend) (VkRequest.enumeratePhysicalDevices ⟨inst⟩)
  have hexec : VulkanBackend.exec b VkOp.enumeratePhysicalDevices
      (.enumeratePhysicalDevices ⟨inst⟩) = _ := if_neg (not_not.mpr h)
  exact congrArg (AnyBackend.wrap .vulkan) ((handle_of_request_ok b _ _ _ hreq).trans hexec)

/-- A load session between two calls, with the state of its backend. -/
structure Loaded (s : Session) (b : VulkanBackend) : Prop where
  cap : s.maxFrameBody = defaultMaxFrameBody
  backend : s.backends.get 0x01 = some (.vulkan b)
  instances : Undisturbed b.instances

theorem Loaded.answeredBy {s : Session} {b b' : VulkanBackend} (h : Loaded s b)
    (hb : Undisturbed b'.instances) : Loaded (answeredBy s (.vulkan b')) b' where
  cap := h.cap
  backend := rfl
  instances := hb

theorem api_createInstance : opcodeApi VkOp.createInstance = 0x01 := by decide

theorem api_enumeratePhysicalDevices : opcodeApi VkOp.enumeratePhysicalDevices = 0x01 := by decide

theorem apiName_vulkan : apiName 0x01 = "vulkan" := rfl

theorem record_vulkan (registry : ObsRegistry) {opcode : UInt32} {m n : Nat}
    (bytesOut bytesIn : UInt64) (h : opcodeApi opcode = 0x01) (hout : UInt64.ofNat (headerLen + m) = bytesOut)
    (hin : UInt64.ofNat (headerLen + n) = bytesIn) :
    registry.record (apiName (opcodeApi opcode)) (UInt64.ofNat (headerLen + m))
      (UInt64.ofNat (headerLen + n)) = registry.record "vulkan" bytesOut bytesIn := by
  rw [h, hout, hin, apiName_vulkan]

theorem read_createInstance (inst : Handle) (h : inst.kind = Vk.kindInstance) :
    readHandle Protocol.Vk.CreateInstanceResponse.decode (·.inst) Vk.kindInstance
      (Protocol.Vk.CreateInstanceResponse.encode ⟨inst⟩) = .ok inst := by
  have hd := Protocol.Vk.CreateInstanceResponse.decode_exact.self ⟨inst⟩ trivial
  have hread := readHandle_ok (fun x : Protocol.Vk.CreateInstanceResponse => x.inst) hd h
  exact hread

section
variable {s : Session} {b : VulkanBackend} (h : Loaded s b) (registry : ObsRegistry) (c : Counters)
include h

theorem Loaded.create : ∃ inst s' b', (createInstance c).run (Served.start s registry) =
    (.ok inst, Served.start s' (registry.record "vulkan" 32 36)) ∧ Loaded s' b' ∧
      b'.instances.get inst = some ⟨true⟩ := by
  obtain ⟨hlive, hget⟩ := h.instances.insert 1
  have hcap : (Protocol.Vk.CreateInstanceRequest.encode ⟨appApiVersion⟩).length ≤
      s.maxFrameBody.toNat := by
    rw [Protocol.Vk.CreateInstanceRequest.decode_exact.length_encode, h.cap]
    decide
  have hread := read_createInstance _ (b.instances.kind_insert 1 ⟨true⟩)
  have hbackend : s.backends.get (opcodeApi VkOp.createInstance) = some (.vulkan b) := by
    rw [api_createInstance, h.backend]
  have hloaded : Loaded _ { b with instances := (b.instances.insert 1 ⟨true⟩).2 } :=
    h.answeredBy hlive
  refine ⟨(b.instances.insert 1 ⟨true⟩).1, _, _, ?_, hloaded, hget⟩
  rw [createInstance, run_asking_served registry c.nextReqId c.nextSeq _ hcap (by decide) hbackend
    (handle_createInstance b appApiVersion), hread,
    Protocol.Vk.CreateInstanceRequest.decode_exact.length_encode,
    Protocol.Vk.CreateInstanceResponse.decode_exact.length_encode,
    record_vulkan registry 32 36 api_createInstance (by decide) (by decide)]

theorem Loaded.enumerate {inst : Handle} (hi : b.instances.get inst = some ⟨true⟩) :
    ∃ devices s' b', (enumeratePhysicalDevices c inst).run (Served.start s registry) =
      (.ok devices, Served.start s' (registry.record "vulkan" 36 40)) ∧ Loaded s' b' := by
  have hcap : (Protocol.Vk.EnumeratePhysicalDevicesRequest.encode ⟨inst⟩).length ≤
      s.maxFrameBody.toNat := by
    rw [Protocol.Vk.EnumeratePhysicalDevicesRequest.decode_exact.length_encode, h.cap]
    decide
  let device := (b.physicalDevices.insert 2 ⟨inst⟩).1
  have hread : readHandles Vk.kindPhysicalDevice
      (Protocol.Vk.EnumeratePhysicalDevicesResponse.encode ⟨[device]⟩) = .ok [device] :=
    readHandles_singleton device (b.physicalDevices.kind_insert 2 ⟨inst⟩)
  have hlen : (Protocol.Vk.EnumeratePhysicalDevicesResponse.encode ⟨[device]⟩).length = 12 := by
    simp [Protocol.Vk.EnumeratePhysicalDevicesResponse.encode, le32, le64]
  have hbackend : s.backends.get (opcodeApi VkOp.enumeratePhysicalDevices) =
      some (.vulkan b) := by
    rw [api_enumeratePhysicalDevices, h.backend]
  have hloaded : Loaded _
      { b with physicalDevices := (b.physicalDevices.insert 2 ⟨inst⟩).2 } :=
    h.answeredBy h.instances
  refine ⟨[device], _, _, ?_, hloaded⟩
  rw [enumeratePhysicalDevices, run_asking_served registry c.nextReqId c.nextSeq _ hcap (by decide)
    hbackend (handle_enumeratePhysicalDevices b inst (by rw [hi]; rfl)), hread,
    Protocol.Vk.EnumeratePhysicalDevicesRequest.decode_exact.length_encode, hlen,
    record_vulkan registry 36 40 api_enumeratePhysicalDevices (by decide) (by decide)]

end

theorem handle_hello (s : Session) (hcap : 12 ≤ s.maxFrameBody.toNat) :
    s.handle (requestFrame CoreOp.hello 1 1 hello.encode) =
      (s.negotiated hello).reply CoreOp.welcome 1 (s.negotiated hello).welcome.encode := by
  have hlen : hello.encode.length ≤ s.maxFrameBody.toNat := by
    rwa [Hello.decode_exact.length_encode]
  have hd : Hello.decode hello.encode = .ok hello := Hello.decode_exact.self hello trivial
  have hv : ¬ hello.protoMajor ≠ protocolMajor := not_not.mpr rfl
  rw [Session.handle, framed_requestFrame hlen]
  simp only [requestHeader, Session.greet, hd, if_neg hv, reduceIte]

theorem run_openSession (registry : ObsRegistry) : ∃ welcome s',
    openSession.run (Served.start loadSession registry) =
      (.ok welcome, Served.start s' (registry.record "core" 40 48)) ∧ Loaded s' .new := by
  let s := loadSession.negotiated hello
  let header := s.replyHeader CoreOp.welcome 1 s.welcome.encode
  have hh : loadSession.handle (requestFrame CoreOp.hello 1 1 hello.encode) =
      (.ok (encodeFrame header s.welcome.encode), { s with nextSeq := s.nextSeq + 1 }) :=
    handle_hello loadSession (by decide)
  have hread : (readReply CoreOp.welcome (encodeFrame header s.welcome.encode) >>= fun b =>
      fromProtocol (Welcome.decode b)) = (.ok s.welcome : Except ClientError Welcome) := by
    have hopcode : header.opcode = CoreOp.welcome := rfl
    rw [← hopcode, readReply_encodeFrame header _ rfl]
    exact congrArg fromProtocol (Welcome.decode_exact.self s.welcome trivial)
  have hcount : counted registry (apiOf (requestFrame CoreOp.hello 1 1 hello.encode))
      (requestFrame CoreOp.hello 1 1 hello.encode) (encodeFrame header s.welcome.encode) =
        registry.record "core" 40 48 := by
    have hapi : apiName (opcodeApi CoreOp.hello) = "core" := rfl
    rw [apiOf_requestFrame, counted, length_requestFrame, encodeFrame, List.length_append,
      FrameHeader.encode_length, Hello.decode_exact.length_encode,
      Welcome.decode_exact.length_encode, hapi]
    rfl
  refine ⟨s.welcome, { s with nextSeq := s.nextSeq + 1 }, ?_, ?_⟩
  · rw [openSession, asking, Conversation.run_ask (Served.roundtrip_answered registry hh), hcount,
      Conversation.run]
    simp only [hread]
  · exact ⟨by decide, rfl, ⟨rfl, fun _ h => absurd h List.not_mem_nil⟩⟩

def roundCalls : List ObsCall := [.record "vulkan" 32 36, .record "vulkan" 36 40]

def roundsCalls (n : Nat) : List ObsCall := (List.replicate n roundCalls).flatten

theorem Loaded.rounds (n : Nat) {s : Session} {b : VulkanBackend} (h : Loaded s b)
    (registry : ObsRegistry) (c : Counters) : ∃ s', (roundsTalk n c).run (Served.start s registry) =
      (.ok (), Served.start s' ((roundsCalls n).foldl ObsRegistry.call registry)) ∧
        (roundsTalk n c).asks (Served.start s registry) = 2 * n := by
  induction n generalizing s b registry c with
  | zero => exact ⟨s, rfl, rfl⟩
  | succ n ih =>
    obtain ⟨inst, s₁, b₁, hrun₁, h₁, hi⟩ := h.create registry c
    obtain ⟨devices, s₂, b₂, hrun₂, h₂⟩ :=
      h₁.enumerate (registry.record "vulkan" 32 36) c.next hi
    obtain ⟨s₃, hrun₃, hasks⟩ := ih h₂
      ((registry.record "vulkan" 32 36).record "vulkan" 36 40) c.next.next
    refine ⟨s₃, ?_, ?_⟩
    · rw [roundsTalk, run_orElseFail_ok _ hrun₁, run_orElseFail_ok _ hrun₂, hrun₃]
      rfl
    · rw [roundsTalk, asks_orElseFail_ok _ hrun₁, asks_orElseFail_ok _ hrun₂, hasks,
        createInstance, asks_asking, enumeratePhysicalDevices, asks_asking]
      omega

def loadCalls (n : Nat) : List ObsCall := .record "core" 40 48 :: roundsCalls n

theorem run_clientTalk (n : Nat) (registry : ObsRegistry) : ∃ s',
    (clientTalk n).run (Served.start loadSession registry) =
      (.ok (), Served.start s' ((loadCalls n).foldl ObsRegistry.call registry)) ∧
        (clientTalk n).asks (Served.start loadSession registry) = 2 * n + 1 := by
  obtain ⟨welcome, s₁, hopen, hloaded⟩ := run_openSession registry
  obtain ⟨s₂, hrun, hasks⟩ := hloaded.rounds n (registry.record "core" 40 48)
    ⟨2, 2, welcome.sessionId⟩
  refine ⟨s₂, ?_, ?_⟩
  · rw [clientTalk, run_orElseFail_ok _ hopen, hrun]
    rfl
  · rw [clientTalk, asks_orElseFail_ok _ hopen, hasks, openSession, asks_asking]

/-- Whatever the schedule, the run ends well and all its calls are counted. -/
theorem drive_eq (n : Nat) (registry : ObsRegistry) (schedule : List Party)
    (h : Stuck Duplex.move
        (run Duplex.move (Duplex.start (clientTalk n) loadSession registry) schedule) ∨
      Fair (10 * n + 8) schedule) :
    drive n registry schedule =
      (some (.ok ()), (loadCalls n).foldl ObsRegistry.call registry) := by
  obtain ⟨s', hrun, hasks⟩ := run_clientTalk n registry
  have hend := Duplex.schedules_agree (clientTalk n) loadSession registry schedule <|
    h.imp_right fun hfair => by rwa [hasks, show 5 * (2 * n + 1) + 3 = 10 * n + 8 by omega]
  rw [Duplex.inOrder, hrun] at hend
  rw [drive, hend]
  rfl

end Graftx.Loadtest
