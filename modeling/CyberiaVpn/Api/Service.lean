import CyberiaVpn.Api.Enrollment
import CyberiaVpn.Identity.Availability
import CyberiaVpn.Identity.Refinement

/-!
# Runs of the control API

The service that `newRuntimeHandler` of
`services/control-api/cmd/server/runtime.go` puts together, over its
snapshot file: processes are started, get requests and crash, at any point
and with any system call failing. The store's texts are those of
`encoding/json`.

Requests that were let through are calls of the store, in the same order
(`Effects.Front`), and one run of `EnrollmentStore` explains the calls
(`Effects.Replay`). Hence what the accounts see: a device that was
enrolled has proved itself on a challenge of its own, and stays.
-/

namespace CyberiaVpn.Api

open Codec Control Data Effects Identity Snapshot
open Codec.Json (Target)

/-! ## The service -/

/-- A minute. -/
def runtimeTtl : Int := 60 * 10 ^ 9

def runtimeCapacity : Int := 10000

/-- The store of a runtime that has never run. -/
def newStore : EnrollmentStore := ⟨∅, runtimeTtl, runtimeCapacity, ∅⟩

abbrev ApiReport := Report FileEnrollmentError (Exchange runtimeTtl) Response

/-- What the service is made of. -/
structure Runtime where
  crypto : Crypto
  zone : ChallengeSnapshot → Int
  parse : Text → Option Time
  json : Json
  challengeJson : JsonCodec Challenge
  netip : NetipText
  verifier : Verifier
  path : String

namespace Runtime

variable (R : Runtime)

def store : Durable FileEnrollmentStore Disk Call FileEnrollmentError (TimelyCall runtimeTtl)
    FileAnswer (Option (Nat × Nat)) :=
  fileEnrollmentStore R.crypto (snapshotCodec R.zone R.parse) R.path runtimeTtl runtimeCapacity

def handler : Front FileEnrollmentError (TimelyCall runtimeTtl) FileAnswer (Exchange runtimeTtl)
    Response :=
  controlHandler R.json R.challengeJson R.netip R.verifier R.crypto.sha256

def service : Durable FileEnrollmentStore Disk Call FileEnrollmentError (Exchange runtimeTtl)
    Response (Option (Nat × Nat)) :=
  R.handler.serving R.store

/-- The call that a request becomes. -/
def callOf (x : Exchange runtimeTtl) : Except Response FileCall :=
  fileCall R.json R.crypto.sha256 x

variable {R} {x : Exchange runtimeTtl} {c : FileCall}

theorem ask_of_ok (h : R.callOf x = .ok c) :
    R.handler.ask x = .inr ⟨c, fileCall_timely h⟩ := by
  simp only [handler, controlHandler]
  split
  · next hr => cases hr.symm.trans h
  · next hr =>
      obtain rfl := Except.ok.inj (hr.symm.trans h)
      rfl

theorem callOf_of_ask {call : TimelyCall runtimeTtl} (h : R.handler.ask x = .inr call) :
    R.callOf x = .ok call.call := by
  simp only [handler, controlHandler] at h
  split at h
  · cases h
  · next hr =>
      obtain rfl := Sum.inr.inj h
      exact hr

/-! ## One run of the store -/

/-- A listing of an empty store has a text. -/
theorem marshal_empty : ∃ data, (snapshotCodec R.zone R.parse).marshal ⟨1, some [], some []⟩ = .ok data ∧
    (data.length : Int) ≤ 16 * 2 ^ 20 :=
  ⟨_, rfl, by decide⟩

theorem explained (hzone : ∀ c, 60 ∣ R.zone c) {disk : Disk} (hfresh : disk.slot.possible = [none])
    (hsound : disk.Sound)
    (events : List (Effects.Event (Exchange runtimeTtl) (Option (Nat × Nat)))) :
    ∃ reports replay, R.handler.Serves (R.service.run events ⟨disk, []⟩).2 reports ∧
      Explained (step R.crypto) newStore (reports.map seen) replay := by
  have hstart : AtRest R.crypto (snapshotCodec R.zone R.parse) newStore
      ([] : List (StoreReport runtimeTtl)) disk := by
    refine ⟨⟨[], none⟩, .start, hsound, fun op hop => (List.not_mem_nil hop).elim, fun d hd => ?_⟩
    rw [hfresh] at hd
    exact Or.inl ⟨List.mem_singleton.mp hd, rfl⟩
  have hkeep : Exclusive R.store Holder Disk.Held
      (AtRest R.crypto (snapshotCodec R.zone R.parse) newStore)
      (InUse R.crypto (snapshotCodec R.zone R.parse) newStore) :=
    fileEnrollmentStore_exclusive (snapshotCodec_roundTrips hzone) marshal_empty rfl (by decide)
  obtain ⟨⟨replay, hreplay, -⟩, -, -⟩ := hkeep.run disk hstart (events.flatMap R.handler.events)
  exact ⟨_, replay, (Front.run_eq R.handler R.store events ⟨disk, []⟩).2, hreplay⟩

/-! ## Requests and responses -/

/-- The account that the token of a request stands for. -/
def account (R : Runtime) (x : Exchange runtimeTtl) : Option Text :=
  (authenticate R.crypto.sha256 x.auth x.request.bearer x.received).toOption

theorem authenticateAccount_eq_ok {json : Json} {a : Except Text Text} {account : Text}
    (h : authenticateAccount json a = .ok account) : a.toOption = some account := by
  unfold authenticateAccount at h
  split at h
  · cases h
  · split at h
    · cases h
    · cases h
      rfl

/-- What a call says about the request that it was. -/
theorem callOf_eq_ok (h : R.callOf x = .ok c) :
    (∃ deviceID account, (x.request.route = .device deviceID ∨
      x.request.route = .configuration deviceID) ∧ R.account x = some account ∧
        c = .device account deviceID) ∨
    (∃ deviceID account, x.request.route = .challenges ∧ R.account x = some account ∧
      c = .issue account deviceID x.now x.random) ∨
    ∃ body account, x.request.route = .devices ∧ R.account x = some account ∧
      c = .enroll (DeviceBody.request body account) x.now := by
  obtain ⟨account, haccount, h⟩ := bind_eq_ok.mp h
  have haccount := authenticateAccount_eq_ok haccount
  split at h
  · next deviceID hroute =>
      cases h
      exact .inl ⟨deviceID, account, .inl hroute, haccount, rfl⟩
  · next deviceID hroute =>
      cases h
      exact .inl ⟨deviceID, account, .inr hroute, haccount, rfl⟩
  · next hroute =>
      obtain ⟨deviceID, -, h⟩ := bind_eq_ok.mp h
      cases h
      exact .inr (.inl ⟨deviceID, account, hroute, haccount, rfl⟩)
  · next hroute =>
      obtain ⟨body, -, h⟩ := bind_eq_ok.mp h
      cases h
      exact .inr (.inr ⟨body, account, hroute, haccount, rfl⟩)

theorem status_writeEnrollmentError (e : FileEnrollmentError) :
    (writeEnrollmentError R.json e).status ≠ 201 := by
  unfold writeEnrollmentError
  split <;> simp [writeJSON]

/-- `POST /api/v1/devices`, answered with success. -/
structure Created (R : Runtime) (x : Exchange runtimeTtl) (request : EnrollmentRequest)
    (response : Response) : Prop where
  call : R.callOf x = .ok (.enroll request x.now)
  status : response.status = 201

/-- Success is what the store answered with success. -/
theorem Created.device {request : EnrollmentRequest} {r : Except FileEnrollmentError FileAnswer}
    (h : R.Created x request (R.handler.answer x r)) :
    ∃ device, r = .ok (.answer (.device device)) ∧
      R.handler.answer x r = securityHeaders (writeDevice R.json 201 device) := by
  have hanswer : R.handler.answer x r =
      securityHeaders (reply R.json R.challengeJson R.netip R.verifier x r) := rfl
  obtain ⟨hcall, hstatus⟩ := h
  rcases callOf_eq_ok hcall with ⟨_, _, -, -, hc⟩ | ⟨_, _, -, -, hc⟩ | ⟨_, _, hroute, -, -⟩
  · cases hc
  · cases hc
  simp only [hanswer, reply, hroute] at hstatus ⊢
  split at hstatus
  · next device => exact ⟨device, rfl, rfl⟩
  · cases hstatus
  · exact absurd hstatus (status_writeEnrollmentError _)

theorem Created.account {request : EnrollmentRequest} {response : Response}
    (h : R.Created x request response) : R.account x = some request.accountID := by
  rcases callOf_eq_ok h.call with ⟨_, _, -, -, hc⟩ | ⟨_, _, -, -, hc⟩ | ⟨_, _, -, haccount, hc⟩
  · cases hc
  · cases hc
  · cases hc
    exact haccount

/-- Both readers answer from the device. -/
theorem answer_device {account deviceID : Text} (h : R.callOf x = .ok (.device account deviceID))
    (r : Except FileEnrollmentError FileAnswer) :
    R.handler.answer x r = securityHeaders (withDevice R.json r fun device =>
      if x.request.route = .device deviceID then writeDevice R.json 200 device
      else writeConfiguration R.json R.netip R.verifier x deviceID) := by
  have hanswer : R.handler.answer x r =
      securityHeaders (reply R.json R.challengeJson R.netip R.verifier x r) := rfl
  rcases callOf_eq_ok h with ⟨_, _, hroute, -, hc⟩ | ⟨_, _, -, -, hc⟩ | ⟨_, _, -, -, hc⟩
  · cases hc
    rcases hroute with hroute | hroute <;> simp [hanswer, reply, hroute]
  · cases hc
  · cases hc

theorem withDevice_cases (r : Except FileEnrollmentError FileAnswer)
    (rest : DeviceIdentity → Response) :
    (∃ device, r = .ok (.answer (.device device)) ∧ withDevice R.json r rest = rest device) ∨
      (r = .error (.domain .deviceNotFound) ∧
        withDevice R.json r rest = writeJSON R.json.error 404 ⟨"device not found"⟩) ∨
      (withDevice R.json r rest).status = 500 := by
  unfold withDevice
  split
  · next device => exact .inl ⟨device, rfl, rfl⟩
  · exact .inr (.inl ⟨rfl, rfl⟩)
  · exact .inr (.inr rfl)

/-! ## Clients -/

/-- A request with a token of the account. -/
structure Sends (R : Runtime) (x : Exchange runtimeTtl) (account : Text) (route : Route) : Prop where
  account : R.account x = some account
  route : x.request.route = route

/-- One with a body. -/
structure Posts (R : Runtime) (x : Exchange runtimeTtl) (account : Text) (route : Route)
    (text : Text) : Prop extends R.Sends x account route where
  mediaType : x.request.mediaType = some (ascii "application/json")
  body : x.request.body = ⟨text, true⟩

section

variable {account deviceID : Text} {route : Route}

theorem Sends.authenticated (h : R.Sends x account route) (haccount : validIdentifier account = true) :
    authenticateAccount R.json
      (authenticate R.crypto.sha256 x.auth x.request.bearer x.received) = .ok account := by
  have htoken := h.account
  rw [Runtime.account] at htoken
  cases hauth : authenticate R.crypto.sha256 x.auth x.request.bearer x.received with
  | error e =>
      rw [hauth] at htoken
      cases htoken
  | ok account' =>
      rw [hauth] at htoken
      cases htoken
      have hne : account ≠ [] := fun h => by
        rw [h] at haccount
        cases haccount
      rw [authenticateAccount, if_neg hne]

theorem Posts.decoded {text : Text} (h : R.Posts x account route text) {σ : Type} {T : Target σ}
    {value : σ} (hdecode : Body.decode ⟨text, true⟩ T = .ok value) :
    decodeEnrollmentJSON R.json x.request T = .ok value := by
  rw [decodeEnrollmentJSON, if_neg (fun hne => hne h.mediaType), h.body, hdecode]

theorem Posts.issues (h : R.Posts x account .challenges (marshalChallengeBody deviceID))
    (haccount : validIdentifier account = true) (hdevice : validIdentifier deviceID = true) :
    R.callOf x = .ok (.issue account deviceID x.now x.random) := by
  have hbody := h.decoded (decode_object (challengeBody_restores hdevice)
    (length_challengeBody hdevice))
  rw [callOf, fileCall, h.authenticated haccount]
  simp only [bind, Except.bind, h.route, hbody]
  rfl

theorem Posts.enrolls {request : EnrollmentRequest}
    (h : R.Posts x request.accountID .devices (marshalDeviceBody request.deviceID
      request.publicKey request.challenge request.signature)) {device : DeviceIdentity}
    (hproof : verifyEnrollment R.crypto request = .ok device) :
    R.callOf x = .ok (.enroll request x.now) := by
  simp only [verifyEnrollment, bind_eq_ok, reject_eq_ok, Bool.or_eq_true, Bool.not_eq_true',
    not_or, Bool.not_eq_false, not_lt, decide_eq_true_eq, ne_eq, not_not] at hproof
  obtain ⟨-, ⟨haccount, hdevice⟩, -, hkey, -, ⟨-, hchallenge⟩, -, ⟨hsignature, -⟩, -⟩ := hproof
  have hbody := h.decoded (decode_object (deviceBody_restores hdevice)
    (length_deviceBody hdevice hkey hchallenge hsignature))
  rw [callOf, fileCall, h.authenticated haccount]
  simp only [bind, Except.bind, h.route, hbody]
  rfl

theorem Sends.reads (h : R.Sends x account (.device deviceID))
    (haccount : validIdentifier account = true) : R.callOf x = .ok (.device account deviceID) := by
  rw [callOf, fileCall, h.authenticated haccount]
  simp only [bind, Except.bind, h.route]
  rfl

end

/-! ## Requests in order -/

/-- The operation that was asked of the store. -/
def asked (R : Runtime) : ApiReport → Option Op
  | .answered x _ | .cut (some x) => (R.callOf x).toOption.bind FileCall.op
  | .started _ | .cut none => none

theorem asked_of_ask {call : TimelyCall runtimeTtl} (h : R.handler.ask x = .inr call) :
    (R.callOf x).toOption.bind FileCall.op = call.call.op := by
  rw [callOf_of_ask h]
  rfl

theorem request_seenAnswer (op : Option Op) (r : Except FileEnrollmentError FileAnswer) :
    (seenAnswer op r).request.toList.Sublist op.toList := by
  have hanswered : ∀ (op : Op) r, (op.answered r).request = some op := by
    intro op r
    unfold Op.answered
    split <;> rfl
  unfold seenAnswer
  split
  · rw [hanswered]
  · rw [hanswered]
  · exact .refl _
  · exact List.nil_sublist _

theorem filterMap_concat {α β : Type} (f : α → Option β) (xs : List α) (x : α) :
    (xs ++ [x]).filterMap f = xs.filterMap f ++ (f x).toList := by
  rw [List.filterMap_append]
  cases h : f x <;> simp [h]

/-- The store is asked for nothing but what was requested. -/
theorem requests_sublist {h' : List ApiReport} {h : List (StoreReport runtimeTtl)}
    (hh : R.handler.Serves h' h) : (requests h).Sublist (h'.filterMap R.asked) := by
  have hrequests : ∀ (h : List (StoreReport runtimeTtl)) r,
      requests (h ++ [r]) = requests h ++ (seen r).request.toList := fun h r => by
    rw [requests, List.map_append]
    exact filterMap_concat _ _ _
  induction hh with
  | nil => exact .refl _
  | started r _ ih =>
      rw [hrequests, filterMap_concat]
      cases r <;> exact ih.append (.refl _)
  | own _ _ ih =>
      rw [filterMap_concat]
      exact ih.trans (List.sublist_append_left _ _)
  | @asked _ _ x call r hask _ ih =>
      rw [hrequests, filterMap_concat]
      refine ih.append ?_
      rw [asked, asked_of_ask hask]
      exact request_seenAnswer _ _
  | cut c _ ih =>
      rw [hrequests, filterMap_concat]
      refine ih.append ?_
      cases c with
      | none => exact .refl _
      | some x =>
          cases hask : R.handler.ask x with
          | inl a =>
              rw [Option.bind_some, Front.call?_of_inl hask]
              exact List.nil_sublist _
          | inr call =>
              rw [Option.bind_some, Front.call?_of_inr hask, asked, asked_of_ask hask]
              cases hop : call.call.op with
              | none => simp [seen, hop, Seen.request]
              | some op => simp [seen, hop, Seen.request]

/-! ## Enrollments -/

section

variable {C : Crypto}

theorem ttl_after (ops : List Op) : (after C newStore ops).ttl = runtimeTtl :=
  after_invariant (J := fun s => s.ttl = runtimeTtl)
    (fun s op hs => (step_settings C s op).1.trans hs) ops rfl

/-- A challenge that is pending was issued. -/
theorem pending_issued {δ : Digest} {p : PendingChallenge} (ops : List Op)
    (hp : (after C newStore ops).challenges.lookup δ = some p) : ∃ now nonce,
      Op.issue p.accountID p.deviceID now (some nonce) ∈ ops ∧ C.sha256 nonce.value = δ ∧
        p.expiresAt = now.add runtimeTtl := by
  induction ops using List.reverseRecOn with
  | nil => cases hp
  | append_singleton ops op ih =>
      rw [after_append] at hp
      rcases (step_effect C (after C newStore ops) op).pending hp with
        hold | ⟨now, nonce, rfl, hnonce, -, hexpiry, -⟩
      · obtain ⟨now, nonce, hmem, h⟩ := ih hold
        exact ⟨now, nonce, List.mem_append_left _ hmem, h⟩
      · rw [ttl_after] at hexpiry
        exact ⟨now, nonce, List.mem_append_right _ (List.mem_singleton_self _), hnonce, hexpiry⟩

end

section

variable {h' : List ApiReport} {h : List (StoreReport runtimeTtl)} {replay : Replay Op}
  {request : EnrollmentRequest} {response : Response}

/-- The store when it grants an enrollment. -/
theorem Created.granted (hh : R.handler.Serves (h' ++ [.answered x (.ok response)]) h)
    (hreplay : Explained (step R.crypto) newStore (h.map seen) replay)
    (hc : R.Created x request response) :
    ∃ device ops, response = securityHeaders (writeDevice R.json 201 device) ∧
      ops.Sublist (h'.filterMap R.asked) ∧
      (step R.crypto (after R.crypto newStore ops) (.enroll request x.now)).1 =
        .ok (.device device) := by
  obtain ⟨g, r, rfl, ha, hg⟩ := hh.last (ask_of_ok hc.call)
  obtain rfl := Except.ok.inj ha
  obtain ⟨device, rfl, hresponse⟩ := hc.device
  rw [List.map_append] at hreplay
  have hlast : Explained (step R.crypto) newStore (g.map seen ++
      [.acknowledged (.enroll request x.now) (.ok (.device device))]) replay := hreplay
  obtain ⟨ops, hops, hgrant⟩ := hlast.last
  refine ⟨device, ops, hresponse, ?_, hgrant.symm⟩
  have hsub := hops.requested_sublist
  rw [Option.toList_none, List.append_nil] at hsub
  exact hsub.trans (requests_sublist hg)

/-- Two answers are answers of the store, in that order. -/
theorem pair_seen {y : Exchange runtimeTtl} {a b : Response} {c' : FileCall}
    (hh : R.handler.Serves h' h)
    (hpair : [.answered x (.ok a), .answered y (.ok b)].Sublist h') (hx : R.callOf x = .ok c)
    (hy : R.callOf y = .ok c') :
    ∃ r r', a = R.handler.answer x r ∧ b = R.handler.answer y r' ∧
      [seenAnswer c.op r, seenAnswer c'.op r'].Sublist (h.map seen) := by
  obtain ⟨l, hl, hpairs⟩ := hh.sublist hpair (by
    rintro r hr
    rcases List.mem_pair.mp hr with rfl | rfl
    · exact ⟨x, _, _, rfl, ask_of_ok hx⟩
    · exact ⟨y, _, _, rfl, ask_of_ok hy⟩)
  obtain _ | ⟨⟨x', call, r, hr, hask, rfl⟩, hpairs⟩ := hpairs
  obtain _ | ⟨⟨y', call', r', hr', hask', rfl⟩, hnil⟩ := hpairs
  cases hnil
  cases hr
  cases hr'
  refine ⟨r, r', rfl, rfl, ?_⟩
  have hcall := Except.ok.inj ((callOf_of_ask hask).symm.trans hx)
  have hcall' := Except.ok.inj ((callOf_of_ask hask').symm.trans hy)
  have hseen := hl.map seen
  simp only [List.map_cons, List.map_nil, seen, hcall, hcall'] at hseen
  exact hseen

end

/-- A request was made, and was answered or cut short. -/
def Requested (reports : List ApiReport) (x : Exchange runtimeTtl) : Prop :=
  (∃ a, .answered x a ∈ reports) ∨ .cut (some x) ∈ reports

theorem requested_of_asked {reports : List ApiReport} {op : Op}
    (h : op ∈ reports.filterMap R.asked) :
    ∃ y c, Requested reports y ∧ R.callOf y = .ok c ∧ c.op = some op := by
  have hcall : ∀ {y}, (R.callOf y).toOption.bind FileCall.op = some op →
      ∃ c, R.callOf y = .ok c ∧ c.op = some op := by
    intro y hy
    obtain ⟨c, hc, hop⟩ := Option.bind_eq_some_iff.mp hy
    cases hr : R.callOf y with
    | error e => rw [hr] at hc; cases hc
    | ok c' =>
        rw [hr] at hc
        cases hc
        exact ⟨c, rfl, hop⟩
  obtain ⟨r, hr, hop⟩ := List.mem_filterMap.mp h
  cases r with
  | started _ => cases hop
  | answered y a =>
      obtain ⟨c, hc⟩ := hcall hop
      exact ⟨y, c, .inl ⟨a, hr⟩, hc⟩
  | cut y? =>
      cases y? with
      | none => cases hop
      | some y =>
          obtain ⟨c, hc⟩ := hcall hop
          exact ⟨y, c, .inr hr, hc⟩

/-- **Enrollments are proved, bound to an account and single-use.** In any
run from a disk without a snapshot: a device is only created for the
account whose token the request bears, with a valid signature by its key
over a challenge that was issued before, on a request that bore a token of
that account and named that device, and that has not expired. Provided
SHA-256 tells the random bytes drawn apart, no challenge creates two
devices, whatever crashes between. -/
theorem created_once (R : Runtime) (hzone : ∀ c, 60 ∣ R.zone c) (disk : Disk)
    (hfresh : disk.slot.possible = [none]) (hsound : disk.Sound)
    (events : List (Effects.Event (Exchange runtimeTtl) (Option (Nat × Nat)))) :
    let reports := (R.service.run events ⟨disk, []⟩).2
    (∀ pre x response post request, reports = pre ++ .answered x (.ok response) :: post →
      R.Created x request response →
      ∃ device, verifyEnrollment R.crypto request = .ok device ∧
        response = securityHeaders (writeDevice R.json 201 device) ∧
        R.account x = some device.accountID ∧
        ∃ y nonce, Requested pre y ∧ y.request.route = .challenges ∧
          R.account y = some device.accountID ∧
          R.callOf y = .ok (.issue device.accountID device.deviceID y.now (some nonce)) ∧
          R.crypto.sha256 nonce.value = R.crypto.sha256 request.challenge ∧
          (y.now.add runtimeTtl).after x.now = true) ∧
    ((drawn (reports.filterMap R.asked)).Pairwise
        (fun v v' => R.crypto.sha256 v ≠ R.crypto.sha256 v') →
      ∀ x response x' response' request request',
        [.answered x (.ok response), .answered x' (.ok response')].Sublist reports →
        R.Created x request response → R.Created x' request' response' →
        R.crypto.sha256 request.challenge ≠ R.crypto.sha256 request'.challenge) := by
  intro reports
  obtain ⟨h, replay, hserves, hreplay⟩ := explained hzone hfresh hsound events
  refine ⟨?_, ?_⟩
  · intro pre x response post request hreports hc
    have hsplit : R.handler.Serves ((pre ++ [.answered x (.ok response)]) ++ post) h := by
      rw [List.append_assoc]
      exact hreports ▸ hserves
    obtain ⟨g, g', rfl, hg⟩ := hsplit.earlier
    rw [List.map_append] at hreplay
    obtain ⟨replay', hreplay'⟩ := hreplay.earlier
    obtain ⟨device, ops, hresponse, hops, hgrant⟩ := hc.granted hg hreplay'
    obtain ⟨hproof, -, -⟩ := enrolled_effect hgrant
    obtain ⟨haccount, hdevice⟩ := verifyEnrollment_ids hproof
    have heffect := step_effect R.crypto (after R.crypto newStore ops) (.enroll request x.now)
    rw [hgrant] at heffect
    obtain ⟨⟨p, hp, hvalid⟩, -⟩ := heffect.granted rfl
    obtain ⟨now, nonce, hissue, hnonce, hexpiry⟩ := pending_issued ops hp.found
    obtain ⟨y, c, hy, hcall, hop⟩ := requested_of_asked (hops.subset hissue)
    refine ⟨device, hproof, hresponse, haccount ▸ hc.account, y, nonce, hy, ?_⟩
    rcases callOf_eq_ok hcall with ⟨_, _, -, -, rfl⟩ | ⟨deviceID, account, hroute, htoken, rfl⟩ |
      ⟨_, _, -, -, rfl⟩
    · cases hop
    · obtain ⟨rfl, rfl, rfl, hrandom⟩ := Op.issue.inj (Option.some.inj hop)
      have hdevice' : p.deviceID = device.deviceID := hp.device.trans hdevice.symm
      have haccount' : p.accountID = device.accountID := hp.account.trans haccount.symm
      rw [hdevice', haccount', hrandom] at hcall
      exact ⟨hroute, haccount' ▸ htoken, hcall, hnonce, hexpiry ▸ hvalid⟩
    · cases hop
  · intro hdistinct x response x' response' request request' hpair hc hc'
    obtain ⟨r, r', rfl, rfl, hseen⟩ := pair_seen hserves hpair hc.call hc'.call
    obtain ⟨device, rfl, -⟩ := hc.device
    obtain ⟨device', rfl, -⟩ := hc'.device
    have hahead : Ahead R.crypto newStore replay.ops := by
      have hsub := ((List.sublist_append_left _ _).trans hreplay.requested_sublist).trans
        (requests_sublist hserves)
      exact ⟨hdistinct.sublist (hsub.filterMap _), fun v _ => AList.notMem_empty _⟩
    have hgrants := (hseen.filterMap Seen.grant).trans hreplay.acknowledged_sublist
    rw [← events_eq_history] at hgrants
    have hpairwise := (successes_pairwise replay.ops hahead).sublist (hgrants.filterMap success)
    exact List.rel_of_pairwise_cons hpairwise (List.mem_singleton_self _)

/-! ### An instance -/

/-- Values that are only ever written. -/
def written {α : Type} (text : α → Text) : JsonCodec α := ⟨fun a => .ok (text a), fun _ => .error ""⟩

def exampleRuntime : Runtime where
  crypto := { exampleCrypto with
    sha256 := fun text =>
      if text.length = 43 then exampleSha256 text else exampleCrypto.sha256 text }
  zone _ := 0
  parse _ := none
  json := {
    error := written fun e => Codec.Json.object [("error", Codec.Json.string (ascii e.error))]
    device := written fun d => Codec.Json.object [("device_id", Codec.Json.string d.deviceID),
      ("public_key", Codec.Json.slice d.publicKey), ("key_id", Codec.Json.string d.keyID)]
    envelope := .ofTable [] }
  challengeJson := written fun c => Codec.Json.object [("challenge", Codec.Json.slice c.value),
    ("expires_at", 34 :: ((Rfc3339.timestamp 0 c.expiresAt.sec c.expiresAt.nsec).toOption.getD [] ++
      [34]))]
  netip := exampleText
  verifier := ⟨fun _ _ _ => .error .unknownSigningKey⟩
  path := "state.json"

theorem exampleTime_timely (seconds : UInt32) :
    ((exampleTime seconds).add runtimeTtl).isZero = false := by
  have hseconds := seconds.toNat_lt
  have hnonzero : ((exampleTime seconds).add runtimeTtl).sec ≠ 0 := by
    simp only [Time.add, Time.nanos, exampleTime, runtimeTtl]
    omega
  simp [Time.isZero, hnonzero]

/-- A request of one of two accounts, some seconds on. -/
def exampleExchange (token : Text) (nonce : UInt8) (route : Route) (body : Text)
    (seconds : UInt32) : Exchange runtimeTtl where
  request := ⟨route, ⟨false, [bearing token]⟩, some (ascii "application/json"), ⟨body, true⟩⟩
  auth := ((newTokenAuthenticator [{ exampleCredential with accountID := ascii "account" },
    neighbourCredential] (exampleTime 0)).toOption).getD ⟨∅⟩
  received := exampleTime seconds
  now := exampleTime seconds
  random := some (exampleNonce nonce)
  latest := .error .notFound
  timely := exampleTime_timely seconds

def exampleToken : Text := List.replicate 32 0

def exampleAsks : Exchange runtimeTtl :=
  exampleExchange exampleToken 1 .challenges (marshalChallengeBody (ascii "device")) 0

def exampleEnrolls : Exchange runtimeTtl :=
  exampleExchange exampleToken 1 .devices (marshalDeviceBody (ascii "device")
    exampleRequest.publicKey exampleRequest.challenge exampleRequest.signature) 10

def exampleReads : Exchange runtimeTtl :=
  exampleExchange exampleToken 1 (.device (ascii "device")) [] 15

theorem exampleAsks_posts : exampleRuntime.Posts exampleAsks (ascii "account") .challenges
    (marshalChallengeBody (ascii "device")) :=
  ⟨⟨by decide +kernel, rfl⟩, rfl, rfl⟩

theorem exampleEnrolls_posts : exampleRuntime.Posts exampleEnrolls (ascii "account") .devices
    (marshalDeviceBody (ascii "device") exampleRequest.publicKey exampleRequest.challenge
      exampleRequest.signature) :=
  ⟨⟨by decide +kernel, rfl⟩, rfl, rfl⟩

theorem exampleReads_sends :
    exampleRuntime.Sends exampleReads (ascii "account") (.device (ascii "device")) :=
  ⟨by decide +kernel, rfl⟩

theorem exampleRequest_verified :
    ∃ device, verifyEnrollment exampleRuntime.crypto exampleRequest = .ok device := by
  have hok : (verifyEnrollment exampleRuntime.crypto exampleRequest).isOk = true := by
    decide +kernel
  cases h : verifyEnrollment exampleRuntime.crypto exampleRequest with
  | error e => rw [h] at hok; cases hok
  | ok device => exact ⟨device, rfl⟩

/-- A device asks for a challenge, enrolls and looks for itself. -/
def exampleRequests : List (Exchange runtimeTtl) := [exampleAsks, exampleEnrolls, exampleReads]

def exampleEvents : List (Effects.Event (Exchange runtimeTtl) (Option (Nat × Nat))) :=
  .act .start :: exampleRequests.map fun x => .act (.call 0 x)

def status : ApiReport → Option Nat
  | .answered _ (.ok response) => some response.status
  | _ => none

theorem exampleEvents_reports : ∃ asked enrolled found : Response,
    (exampleRuntime.service.run exampleEvents ⟨emptyDisk, []⟩).2 = [.started (.ok ()),
      .answered exampleAsks (.ok asked), .answered exampleEnrolls (.ok enrolled),
      .answered exampleReads (.ok found)] ∧
    exampleRuntime.Created exampleEnrolls exampleRequest enrolled ∧ found.status = 200 := by
  obtain ⟨responses, hlength, hreports⟩ := Front.serving_started (F := exampleRuntime.handler)
    (D := exampleRuntime.store) (w := emptyDisk) (by decide +kernel) exampleRequests
  have hstatuses : ((exampleRuntime.service.run exampleEvents ⟨emptyDisk, []⟩).2).map status =
      [none, some 201, some 201, some 200] := by decide +kernel
  obtain ⟨device, hproof⟩ := exampleRequest_verified
  obtain ⟨asked, enrolled, found, rfl⟩ := List.length_eq_three.mp hlength
  rw [show (exampleRuntime.service.run exampleEvents ⟨emptyDisk, []⟩).2 = _ from hreports]
    at hstatuses ⊢
  simp only [exampleRequests, List.zipWith_cons_cons, List.zipWith_nil_left, List.map_cons,
    List.map_nil, status, List.cons.injEq, Option.some.injEq] at hstatuses
  obtain ⟨-, -, hstatus, hfound, -⟩ := hstatuses
  exact ⟨asked, enrolled, found, rfl, ⟨exampleEnrolls_posts.enrolls hproof, hstatus⟩, hfound⟩

/-- The device was enrolled on the challenge that it had asked for. -/
theorem created_once_device : ∃ pre response post,
    (exampleRuntime.service.run exampleEvents ⟨emptyDisk, []⟩).2 =
      pre ++ .answered exampleEnrolls (.ok response) :: post ∧
    exampleRuntime.Created exampleEnrolls exampleRequest response ∧
    ∃ y, Requested pre y ∧ y.request.route = .challenges ∧
      exampleRuntime.account y = some (ascii "account") := by
  obtain ⟨asked, enrolled, found, hreports, hcreated, -⟩ := exampleEvents_reports
  have hsplit : (exampleRuntime.service.run exampleEvents ⟨emptyDisk, []⟩).2 =
      [.started (.ok ()), .answered exampleAsks (.ok asked)] ++
        .answered exampleEnrolls (.ok enrolled) :: [.answered exampleReads (.ok found)] := hreports
  refine ⟨_, enrolled, _, hsplit, hcreated, ?_⟩
  obtain ⟨device, hproof, -, -, y, nonce, hy, hroute, haccount, -⟩ :=
    (created_once exampleRuntime (fun _ => ⟨0, rfl⟩) emptyDisk rfl ⟨nofun, nofun⟩ exampleEvents).1
      _ _ _ _ _ hsplit hcreated
  refine ⟨y, hy, hroute, ?_⟩
  rw [haccount, (verifyEnrollment_ids hproof).1]
  rfl

/-! ## Devices -/

section

variable {h' : List ApiReport} {h : List (StoreReport runtimeTtl)} {replay : Replay Op}
  {request : EnrollmentRequest} {response : Response} {y : Exchange runtimeTtl}

/-- A store that is asked after an enrollment has its device. -/
theorem Created.found (hc : R.Created x request response) (hh : R.handler.Serves h' h)
    (hreplay : Explained (step R.crypto) newStore (h.map seen) replay) {b : Response}
    (hpair : [.answered x (.ok response), .answered y (.ok b)].Sublist h')
    (hy : R.callOf y = .ok c) :
    ∃ device r', verifyEnrollment R.crypto request = .ok device ∧ b = R.handler.answer y r' ∧
      ∀ op a, seenAnswer c.op r' = .acknowledged op a → ∃ t : EnrollmentStore,
        t.devices.lookup device.deviceID = some device ∧ a = (step R.crypto t op).1 := by
  obtain ⟨r, r', rfl, rfl, hseen⟩ := pair_seen hh hpair hc.call hy
  obtain ⟨device, rfl, -⟩ := hc.device
  have hgrants := (hseen.filterMap Seen.grant).trans hreplay.acknowledged_sublist
  have hfirst := hgrants.subset (List.mem_cons_self ..)
  obtain ⟨s, -, hgrant⟩ := mem_history (J := fun _ => True) (fun _ _ _ => trivial) trivial hfirst
  refine ⟨device, r', (enrolled_effect hgrant.symm).1, rfl, fun op a hack => ?_⟩
  rw [hack] at hgrants
  exact pair_history (J := fun t => t.devices.lookup device.deviceID = some device)
    (fun s op hs => (step_effect R.crypto s op).device hs)
    (fun s hs => (enrolled_effect hs).2.2) hgrants

end

/-- **A device stays with its account.** In any run, once a device was
created: requests for it by its account are answered with that device, or
go on to its configuration; those by other accounts are told that there is
none; each may fail for want of the store. Nobody creates it again. -/
theorem created_stays (R : Runtime) (hzone : ∀ c, 60 ∣ R.zone c) (disk : Disk)
    (hfresh : disk.slot.possible = [none]) (hsound : disk.Sound)
    (events : List (Effects.Event (Exchange runtimeTtl) (Option (Nat × Nat))))
    (x y : Exchange runtimeTtl) (request : EnrollmentRequest) (response response' : Response)
    (hpair : [.answered x (.ok response), .answered y (.ok response')].Sublist
      (R.service.run events ⟨disk, []⟩).2)
    (hcreated : R.Created x request response) :
    (∀ account, R.callOf y = .ok (.device account request.deviceID) →
      ∃ device, verifyEnrollment R.crypto request = .ok device ∧
        (response'.status = 500 ∨
          response' = securityHeaders
            (if account ≠ device.accountID then writeJSON R.json.error 404 ⟨"device not found"⟩
            else if y.request.route = .device request.deviceID then writeDevice R.json 200 device
            else writeConfiguration R.json R.netip R.verifier y request.deviceID))) ∧
    ∀ request', R.Created y request' response' → request'.deviceID ≠ request.deviceID := by
  obtain ⟨h, replay, hserves, hreplay⟩ := explained hzone hfresh hsound events
  refine ⟨fun account hy => ?_, fun request' hcreated' heq => ?_⟩
  · obtain ⟨device, r', hproof, rfl, hfound⟩ := hcreated.found hserves hreplay hpair hy
    refine ⟨device, hproof, ?_⟩
    have hlookup : ∀ a, seenAnswer (some (.device account request.deviceID)) r' = .acknowledged
        (.device account request.deviceID) a → a = if device.accountID ≠ account then
          .error .deviceNotFound else .ok (.device device) := by
      intro a ha
      obtain ⟨t, ht, rfl⟩ := hfound _ _ ha
      rw [(verifyEnrollment_ids hproof).2] at ht
      rw [step, EnrollmentStore.device, ht]
      dsimp only
      split <;> rfl
    rw [answer_device hy]
    rcases withDevice_cases r' _ with ⟨device', rfl, hanswer⟩ | ⟨rfl, hanswer⟩ | hstatus
    · have ha := hlookup _ rfl
      split at ha
      · cases ha
      next haccount =>
      cases ha
      rw [hanswer]
      exact .inr (congrArg securityHeaders (if_neg fun h => h (not_not.mp haccount).symm).symm)
    · have ha := hlookup _ rfl
      split at ha
      swap
      · cases ha
      next haccount =>
      rw [hanswer]
      exact .inr (congrArg securityHeaders (if_pos fun heq => haccount heq.symm).symm)
    · exact .inl hstatus
  · obtain ⟨device, r', hproof, rfl, hfound⟩ := hcreated.found hserves hreplay hpair hcreated'.call
    obtain ⟨device', rfl, -⟩ := hcreated'.device
    obtain ⟨t, ht, hr⟩ := hfound _ _ rfl
    obtain ⟨hproof', hnew, -⟩ := enrolled_effect hr.symm
    refine hnew (Table.mem_iff_lookup.mpr ⟨device, ?_⟩)
    rw [(verifyEnrollment_ids hproof').2, heq, ← (verifyEnrollment_ids hproof).2]
    exact ht

/-- The device is found where it was enrolled. -/
theorem created_stays_device : ∃ enrolled found device,
    [.answered exampleEnrolls (.ok enrolled), .answered exampleReads (.ok found)].Sublist
      (exampleRuntime.service.run exampleEvents ⟨emptyDisk, []⟩).2 ∧
    exampleRuntime.Created exampleEnrolls exampleRequest enrolled ∧
    verifyEnrollment exampleRuntime.crypto exampleRequest = .ok device ∧
    found = securityHeaders (writeDevice exampleRuntime.json 200 device) := by
  obtain ⟨asked, enrolled, found, hreports, hcreated, hstatus⟩ := exampleEvents_reports
  have hpair : [.answered exampleEnrolls (.ok enrolled), .answered exampleReads
      (.ok found)].Sublist (exampleRuntime.service.run exampleEvents ⟨emptyDisk, []⟩).2 := by
    rw [hreports]
    exact ((List.Sublist.refl _).cons _).cons _
  obtain ⟨device, hproof, hanswer⟩ := (created_stays exampleRuntime (fun _ => ⟨0, rfl⟩) emptyDisk
    rfl ⟨nofun, nofun⟩ exampleEvents _ _ _ _ _ hpair hcreated).1 (ascii "account")
    (exampleReads_sends.reads (by decide))
  refine ⟨enrolled, found, device, hpair, hcreated, hproof, ?_⟩
  rcases hanswer with hfailed | hanswer
  · cases hfailed.symm.trans hstatus
  · rw [hanswer, if_neg (fun hne => hne (verifyEnrollment_ids hproof).1.symm)]
    exact congrArg securityHeaders (if_pos rfl)

end Runtime

end CyberiaVpn.Api
