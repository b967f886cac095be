import CyberiaVpn.Linux.PeerTables

/-!
# Node health behind the system runner

`SystemCommandRunner` of `core/transport/src/linux.rs` runs a process and
refuses more than 64 KiB of its output. The node asks `wg` for one line
per peer, each of at least 47 bytes, and admits up to 4096 peers: the two
bounds do not fit together. Below the bound the parsers read every line,
and `health` is exact; above it every probe counts as a failure, however
well the node works.
-/

namespace CyberiaVpn.Linux

open Effects Transport

/-! ## The system runner -/

/-- What running a command comes to. Standard error is the text
`from_utf8_lossy` makes of it. -/
inductive ProcessOutcome where
  | notStarted (error : String)
  | exited (success : Bool) (status : String) (stdout : List UInt8) (stderr : String)

/-- `str::trim`. -/
def trim (text : List Char) : List Char :=
  ((text.dropWhile isWhiteSpace).reverse.dropWhile isWhiteSpace).reverse

/-- The bound on what a command may print. -/
def maximumOutputBytes : Nat := 64 * 1024

/-- `SystemCommandRunner::output`. -/
def systemOutput : ProcessOutcome → Except TransportError (List UInt8)
  | .notStarted error => .error (.network ("platform command failed to start: " ++ error))
  | .exited true _ stdout _ =>
      if maximumOutputBytes < stdout.length then
        .error (.network "platform command output exceeds safe bounds")
      else .ok stdout
  | .exited false status _ stderr =>
      .error (.network ("platform command exited with " ++ status ++ ": " ++
        String.ofList (trim (stderr.toList.take 256))))

/-! ## What `wg` prints -/

def isBase64 (b : UInt8) : Bool :=
  (65 ≤ b && b ≤ 90) || (97 ≤ b && b ≤ 122) || (48 ≤ b && b ≤ 57) || b == 43 || b == 47 || b == 61

/-- One line of `wg show <interface> latest-handshakes`: a key of 44 base64
characters, a tab and a decimal number. -/
structure HandshakeRow where
  key : List UInt8
  seconds : List UInt8
  key_length : key.length = 44
  key_base64 : ∀ b ∈ key, isBase64 b = true
  seconds_ne : seconds ≠ []
  seconds_digit : ∀ b ∈ seconds, isDigit b = true

namespace HandshakeRow

def timestamp (row : HandshakeRow) : Nat :=
  row.seconds.foldl (fun n b => 10 * n + (b.toNat - 48)) 0

def text (row : HandshakeRow) : List UInt8 := row.key ++ 9 :: row.seconds

/-- The bytes of a line, the newline included. -/
def size (row : HandshakeRow) : Nat := 46 + row.seconds.length

end HandshakeRow

def listing (rows : List HandshakeRow) : List UInt8 := rows.flatMap fun row => row.text ++ [10]

section Reading

variable {row : HandshakeRow} {rows : List HandshakeRow}

theorem length_listing (rows : List HandshakeRow) :
    (listing rows).length = (rows.map HandshakeRow.size).sum := by
  rw [listing, List.length_flatMap]
  refine congrArg List.sum (List.map_congr_left fun row _ => ?_)
  simp [HandshakeRow.text, HandshakeRow.size, row.key_length]
  omega

theorem forall_byte {P : UInt8 → Prop} (h : ∀ n < 256, P (UInt8.ofNat n)) (b : UInt8) : P b := by
  have hb := h b.toNat b.toNat_lt
  rwa [UInt8.ofNat_toNat] at hb

theorem plain_of_base64 : ∀ b : UInt8, isBase64 b = true →
    b < 0x80 ∧ isAsciiWhitespace b = false :=
  forall_byte (by decide +kernel)

theorem plain_of_digit : ∀ b : UInt8, isDigit b = true →
    b < 0x80 ∧ isAsciiWhitespace b = false ∧ b ≠ 43 :=
  forall_byte (by decide +kernel)

theorem ne_newline : ∀ b : UInt8, isAsciiWhitespace b = false → (b == 10) = false :=
  forall_byte (by decide +kernel)

theorem utf8Valid_of_ascii : ∀ {bytes : List UInt8}, (∀ b ∈ bytes, b < 0x80) → utf8Valid bytes = true
  | [], _ => rfl
  | b :: bytes, h => by
      rw [utf8Valid.eq_def]
      dsimp only
      rw [if_pos (h b (List.mem_cons_self ..))]
      exact utf8Valid_of_ascii fun c hc => h c (List.mem_cons_of_mem _ hc)

theorem utf8Valid_listing (rows : List HandshakeRow) : utf8Valid (listing rows) = true := by
  refine utf8Valid_of_ascii fun b hb => ?_
  obtain ⟨row, -, hb⟩ := List.mem_flatMap.mp hb
  simp only [HandshakeRow.text, List.mem_append, List.mem_cons, List.not_mem_nil, or_false] at hb
  rcases hb with (hb | rfl | hb) | rfl
  · exact (plain_of_base64 b (row.key_base64 b hb)).1
  · decide
  · exact (plain_of_digit b (row.seconds_digit b hb)).1
  · decide

theorem splitOn_listing : ∀ rows : List HandshakeRow,
    (listing rows).splitOn 10 = rows.map HandshakeRow.text ++ [[]]
  | [] => rfl
  | row :: rows => by
      have hline : ∀ b ∈ row.text, (b == 10) = false := by
        intro b hb
        simp only [HandshakeRow.text, List.mem_append, List.mem_cons] at hb
        rcases hb with hb | rfl | hb
        · exact ne_newline b (plain_of_base64 b (row.key_base64 b hb)).2
        · rfl
        · exact ne_newline b (plain_of_digit b (row.seconds_digit b hb)).2.1
      have ih := splitOn_listing rows
      rw [List.splitOn_eq_splitOnP] at ih ⊢
      rw [listing, List.flatMap_cons, List.append_assoc, List.singleton_append,
        List.splitOnP_append_cons_of_forall_mem hline 10 rfl, ← listing, ih]
      rfl

theorem lines_listing (rows : List HandshakeRow) :
    lines (listing rows) = rows.map HandshakeRow.text := by
  simp [lines, splitOn_listing]

theorem words_text (row : HandshakeRow) : words row.text = [row.key, row.seconds] := by
  have hkey : ∀ b ∈ row.key, isAsciiWhitespace b = false := fun b hb =>
    (plain_of_base64 b (row.key_base64 b hb)).2
  have hseconds : ∀ b ∈ row.seconds, isAsciiWhitespace b = false := fun b hb =>
    (plain_of_digit b (row.seconds_digit b hb)).2.1
  have hne : row.key ≠ [] := fun h => by
    have := row.key_length
    rw [h] at this
    cases this
  rw [words, HandshakeRow.text, List.splitOnP_append_cons_of_forall_mem hkey 9 rfl,
    List.splitOnP_eq_singleton hseconds]
  simp [hne, row.seconds_ne]

theorem handshakeLine_text (row : HandshakeRow) :
    handshakeLine row.text = if row.timestamp < 2 ^ 64 then some row.timestamp else none := by
  have hplus : row.seconds.head? ≠ some 43 := fun h =>
    (plain_of_digit 43 (row.seconds_digit 43 (List.mem_of_mem_head? h))).2.2 rfl
  have hdigits : row.seconds ≠ [] ∧ row.seconds.all isDigit = true :=
    ⟨row.seconds_ne, List.all_eq_true.mpr row.seconds_digit⟩
  rw [handshakeLine, words_text]
  simp only [parseU64, if_neg hplus, if_pos hdigits]
  rfl

/-- Every line is read, or none of them is. -/
theorem mapM_handshakeLine : ∀ rows : List HandshakeRow,
    (rows.map HandshakeRow.text).mapM handshakeLine =
      if ∀ row ∈ rows, row.timestamp < 2 ^ 64 then some (rows.map HandshakeRow.timestamp) else none
  | [] => by simp
  | row :: rows => by
      rw [List.map_cons, List.mapM_cons, handshakeLine_text, mapM_handshakeLine rows]
      by_cases hrow : row.timestamp < 2 ^ 64
      · by_cases hrows : ∀ row ∈ rows, row.timestamp < 2 ^ 64
        · have hall : ∀ row' ∈ row :: rows, row'.timestamp < 2 ^ 64 :=
            List.forall_mem_cons.mpr ⟨hrow, hrows⟩
          rw [if_pos hrow, if_pos hrows, if_pos hall]
          rfl
        · rw [if_pos hrow, if_neg hrows,
            if_neg fun hall => hrows (List.forall_mem_cons.mp hall).2]
          rfl
      · have hnot : ¬∀ row' ∈ row :: rows, row'.timestamp < 2 ^ 64 := fun hall =>
          hrow (hall row (List.mem_cons_self ..))
        rw [if_neg hrow, if_neg hnot]
        rfl

theorem nodeHandshakes_listing (now : Nat) (rows : List HandshakeRow) :
    nodeHandshakes now (listing rows) =
      if ∀ row ∈ rows, row.timestamp < 2 ^ 64 then
        some (rows.length, (rows.filter fun row => recentHandshake now row.timestamp).length)
      else none := by
  rw [nodeHandshakes, if_pos (utf8Valid_listing rows), lines_listing, mapM_handshakeLine]
  split
  · have hfilter : (rows.map HandshakeRow.timestamp).filter (recentHandshake now) =
        (rows.filter fun row => recentHandshake now row.timestamp).map HandshakeRow.timestamp :=
      List.filter_map ..
    simp only [Option.bind_eq_bind, Option.bind_some, Option.pure_def, hfilter, List.length_map]
  · rfl

end Reading

/-! ## The probe -/

namespace LinuxWireGuardNode

section Probe

variable {n : LinuxWireGuardNode} {w : Host} {i : String}

/-- The report of a probe that failed. -/
def failedProbe (n : LinuxWireGuardNode) : WireGuardNodeHealth :=
  ⟨.unavailable, n.peers.length, 0, 0, saturatingIncrement n.healthFailures⟩

theorem sat_healthFailure_report : healthFailure.Sat (fun _ => True)
    (fun report _ _ => report = n.failedProbe) (fun _ _ _ => False) n w := by
  rw [healthFailure, Prog.sat_bind, Prog.sat_update, Prog.sat_bind, Prog.sat_self, Prog.sat_pure]
  rfl

/-- What `health` reports, for each answer of the runner. -/
theorem sat_health_report (now : Nat) (hactive : n.activeInterface = some i) (hlink : i ∈ w.kernel.links)
    {answer : Except TransportError (List UInt8)} (hanswer : w.env.commands.head? = some answer) :
    (health now).Sat (fun _ => True)
      (fun report _ _ => report =
        match answer.toOption.bind (nodeHandshakes now) with
        | none => n.failedProbe
        | some (observed, recent) =>
            ⟨if observed = n.peers.length then .healthy else .degraded, n.peers.length,
              observed, recent, 0⟩)
      (fun _ _ _ => False) n w := by
  have hexec : w.kernel.exec ["show", i, "latest-handshakes"] = some w.kernel :=
    Kernel.onLink_eq_some.mpr ⟨hlink, rfl⟩
  have hstdout : ∀ out, w.kernel.stdout ["show", i, "latest-handshakes"] out = out := fun _ => rfl
  have hhead : w.env.commands.headD (.ok []) = answer := by
    rw [List.headD_eq_head?_getD, hanswer]
    rfl
  rw [health, Prog.sat_bind, Prog.sat_self, hactive]
  dsimp only
  rw [Prog.sat_bind, Prog.sat_attempt, output, Prog.sat_effect]
  simp only [Host.answer, hhead, hexec]
  cases answer with
  | error e => exact ⟨trivial, sat_healthFailure_report⟩
  | ok out =>
      refine ⟨trivial, ?_⟩
      simp only [Except.map, Except.toOption, Option.bind_some, hstdout]
      cases hread : nodeHandshakes now out with
      | none => exact sat_healthFailure_report
      | some counts =>
          dsimp only
          rw [Prog.sat_bind, Prog.sat_update, Prog.sat_pure]

/-- Output beyond the bound: every probe fails. -/
theorem health_crowded (now : Nat) (rows : List HandshakeRow) {status stderr : String}
    (hactive : n.activeInterface = some i) (hlink : i ∈ w.kernel.links)
    (hanswer : w.env.commands.head? =
      some (systemOutput (.exited true status (listing rows) stderr)))
    (hsize : maximumOutputBytes < (rows.map HandshakeRow.size).sum) :
    (health now n w).result = .ok n.failedProbe := by
  obtain ⟨report, hresult, hreport⟩ := (sat_health_report now hactive hlink hanswer).returned
  have hout : systemOutput (.exited true status (listing rows) stderr) =
      .error (.network "platform command output exceeds safe bounds") :=
    if_pos (by rw [length_listing]; exact hsize)
  rw [hresult, hreport, hout]
  rfl

theorem healthy_ne_failedProbe (recent : Nat) :
    (⟨.healthy, n.peers.length, n.peers.length, recent, 0⟩ : WireGuardNodeHealth) ≠
      n.failedProbe := fun h => nomatch congrArg WireGuardNodeHealth.status h

/-- A node whose `wg` works and prints one line per peer is reported
healthy, with the right counts, exactly when the lines fit into the
runner's bound and their numbers into 64 bits. -/
theorem health_accurate_iff (n : LinuxWireGuardNode) (w : Host) (now : Nat) (i status stderr : String)
    (rows : List HandshakeRow) (hactive : n.activeInterface = some i) (hlink : i ∈ w.kernel.links)
    (hrows : rows.length = n.peers.length)
    (hanswer : w.env.commands.head? =
      some (systemOutput (.exited true status (listing rows) stderr))) :
    (health now n w).result = .ok ⟨.healthy, n.peers.length, n.peers.length,
        (rows.filter fun row => recentHandshake now row.timestamp).length, 0⟩ ↔
      (rows.map HandshakeRow.size).sum ≤ maximumOutputBytes ∧
        ∀ row ∈ rows, row.timestamp < 2 ^ 64 := by
  by_cases hsize : (rows.map HandshakeRow.size).sum ≤ maximumOutputBytes
  · obtain ⟨report, hresult, hreport⟩ :=
      (sat_health_report now hactive hlink hanswer).returned
    rw [hresult, hreport, Except.ok.injEq]
    have hout : systemOutput (.exited true status (listing rows) stderr) = .ok (listing rows) :=
      if_neg (by rw [length_listing]; omega)
    rw [hout]
    simp only [Except.toOption, Option.bind_some, nodeHandshakes_listing]
    by_cases hstamps : ∀ row ∈ rows, row.timestamp < 2 ^ 64
    · rw [if_pos hstamps]
      simp only [hrows, if_true, hsize, true_and, true_iff]
      exact hstamps
    · rw [if_neg hstamps]
      exact ⟨fun h => absurd h.symm (healthy_ne_failedProbe _), fun h => absurd h.2 hstamps⟩
  · rw [health_crowded now rows hactive hlink hanswer (by omega), Except.ok.injEq]
    exact ⟨fun h => absurd h.symm (healthy_ne_failedProbe _), fun h => absurd h.1 hsize⟩

end Probe

/-! ## A crowded node -/

section Crowd

variable {n : LinuxWireGuardNode} {w : Host} {i : String}

theorem sat_addPeer_calm {peer : WireGuardNodePeer} (hcalm : w.env = .calm)
    (hlink : i ∈ w.kernel.links) (hadd : n.Added peer i) :
    (addPeer peer).Sat (fun _ => True)
      (fun _ n' w' => n' = { n with
          peers := peer.publicKey :: n.peers
          assignedRoutes :=
            peer.allowedIps.foldl (assignRoute peer.publicKey) n.assignedRoutes } ∧
        w'.env = .calm ∧ w'.kernel.links = w.kernel.links)
      (fun _ _ _ => False) n w := by
  have hroutes : ¬(peer.allowedIps.any fun route => n.assignedRoutes.any (·.1 = route)) = true := by
    intro hany
    obtain ⟨route, hroute, hany⟩ := List.any_eq_true.mp hany
    obtain ⟨⟨route', key⟩, hmem, heq⟩ := List.any_eq_true.mp hany
    obtain rfl : route' = route := of_decide_eq_true heq
    exact hadd.routes route' hroute key hmem
  have hcapacity := hadd.capacity
  rw [addPeer, hadd.valid, Prog.sat_bind, Prog.sat_liftExcept]
  dsimp only
  rw [Prog.sat_bind, Prog.sat_self, hadd.active]
  dsimp only
  rw [if_neg (by omega), if_neg hadd.key, if_neg hroutes, Prog.sat_bind]
  refine sat_command_calm hcalm (Kernel.onLink_eq_some.mpr ⟨hlink, rfl⟩) fun log => ?_
  refine Prog.sat_update.mpr ⟨?_, rfl, rfl⟩
  rw [hadd.active]

/-- Two peers that one node can manage. -/
def Compatible (p q : WireGuardNodePeer) : Prop :=
  p.publicKey ≠ q.publicKey ∧ ∀ route ∈ p.allowedIps, route ∉ q.allowedIps

/-- A node on a calm host that can take these peers one after another. -/
structure Roomy (i : String) (peers : List WireGuardNodePeer) (n : LinuxWireGuardNode) (w : Host) :
    Prop where
  calm : w.env = .calm
  link : i ∈ w.kernel.links
  active : n.activeInterface = some i
  capacity : n.peers.length + peers.length ≤ maximumNodePeers
  valid : ∀ peer ∈ peers, peer.validate = .ok ()
  key : ∀ peer ∈ peers, peer.publicKey ∉ n.peers
  routes : ∀ peer ∈ peers, ∀ route ∈ peer.allowedIps, ∀ key, (route, key) ∉ n.assignedRoutes
  compatible : peers.Pairwise Compatible

theorem Roomy.add {peer : WireGuardNodePeer} {peers : List WireGuardNodePeer}
    (h : Roomy i (peer :: peers) n w) :
    Roomy i peers (addPeer peer n w).self (addPeer peer n w).world ∧
      (addPeer peer n w).self.peers.length = n.peers.length + 1 := by
  obtain ⟨hvalid, hvalids⟩ := List.forall_mem_cons.mp h.valid
  obtain ⟨hkey, hkeys⟩ := List.forall_mem_cons.mp h.key
  obtain ⟨hroutes, hroutess⟩ := List.forall_mem_cons.mp h.routes
  obtain ⟨hothers, hcompatible⟩ := List.pairwise_cons.mp h.compatible
  have hcapacity := h.capacity
  rw [List.length_cons] at hcapacity
  have hadd : n.Added peer i := ⟨h.active, hvalid, by omega, hkey, hroutes⟩
  obtain ⟨-, -, hself, hcalm, hlinks⟩ := (sat_addPeer_calm h.calm h.link hadd).returned
  rw [foldl_assignRoute (of_validatePeer hvalid).2.2.1 hroutes] at hself
  refine ⟨⟨hcalm, by rw [hlinks]; exact h.link, by rw [hself]; exact h.active, ?_, hvalids,
    fun other hother hmem => ?_, fun other hother route hroute key hmem => ?_, hcompatible⟩, ?_⟩
  · rw [hself, List.length_cons]
    omega
  · rw [hself] at hmem
    rcases List.mem_cons.mp hmem with heq | hmem
    · exact (hothers other hother).1 heq.symm
    · exact hkeys other hother hmem
  · rw [hself] at hmem
    rcases List.mem_append.mp hmem with hmem | hmem
    · obtain ⟨route', hroute', heq⟩ := List.mem_map.mp (List.mem_reverse.mp hmem)
      obtain ⟨rfl, -⟩ := Prod.mk.inj heq
      exact (hothers other hother).2 route' hroute' hroute
    · exact hroutess other hother route hroute key hmem
  · rw [hself, List.length_cons]

/-- All of them are taken. -/
theorem Roomy.fill : ∀ {peers : List WireGuardNodePeer} {n : LinuxWireGuardNode} {w : Host},
    Roomy i peers n w →
    let run := (Prog.session (δ := Empty) Call.run (peers.map Call.addPeer)) n w
    Roomy i [] run.self run.world ∧ run.self.peers.length = n.peers.length + peers.length
  | [], _, _, h => ⟨h, rfl⟩
  | peer :: peers, n, w, h => by
      obtain ⟨hnext, hlength⟩ := h.add
      obtain ⟨hend, hcount⟩ := hnext.fill
      refine ⟨hend, ?_⟩
      rw [List.length_cons]
      rw [hlength] at hcount
      exact hcount.trans (by omega)

end Crowd

theorem isBase64_encodeChunks {bytes : List UInt8} {c : Char} (hc : c ∈ encodeChunks bytes) :
    isBase64 (UInt8.ofNat c.toNat) = true := by
  have halphabet : ('=' :: Codec.Base64.alphabet).all (fun c => isBase64 (UInt8.ofNat c.toNat)) =
      true := by decide
  refine List.all_eq_true.mp halphabet c ?_
  obtain ⟨symbols, hsymbols, heq⟩ := Codec.Base64.encode_padding bytes
  rw [encodeChunks_eq_encode, heq, List.mem_append] at hc
  rcases hc with hsymbol | hpad
  · exact List.mem_cons_of_mem _ (hsymbols c hsymbol)
  · rw [List.eq_of_mem_replicate hpad]
    exact List.mem_cons_self ..

/-- The line of a peer that has not been seen yet. -/
def unseenRow (key : Key) : HandshakeRow where
  key := (encodeChunks key.toList).map fun c => UInt8.ofNat c.toNat
  seconds := [48]
  key_length := by simp [encodeChunks_eq_encode, Codec.Base64.length_encode]
  key_base64 := by
    intro b hb
    obtain ⟨c, hc, rfl⟩ := List.mem_map.mp hb
    exact isBase64_encodeChunks hc
  seconds_ne := List.cons_ne_nil _ _
  seconds_digit := by simp [isDigit]

/-- The clients of `10.1.0.0/16`, numbered. -/
def clientKey (j : Nat) : Key :=
  Vector.ofFn fun b => if b = 0 then 1 else if b = 1 then UInt8.ofNat (j / 256) else
    if b = 2 then UInt8.ofNat j else 0

def clientPeer (j : Nat) : WireGuardNodePeer where
  publicKey := clientKey j
  allowedIps := [⟨.v4 (BitVec.ofNat 32 (0x0a010001 + j)), 32⟩]
  persistentKeepaliveSeconds := none

theorem toNat_clientAddress {j : Nat} (hj : j < 4096) :
    (BitVec.ofNat 32 (0x0a010001 + j)).toNat = 0x0a010001 + j := by
  rw [BitVec.toNat_ofNat]
  exact Nat.mod_eq_of_lt (by omega)

theorem clientPeer_valid {j : Nat} (hj : j < 4096) : (clientPeer j).validate = .ok () := by
  have hkey : ¬isZeroKey (clientPeer j).publicKey = true := by
    rw [Bool.not_eq_true, isZeroKey, List.all_eq_false]
    refine ⟨1, ?_, by decide⟩
    rw [clientPeer, clientKey, Vector.toList_ofFn]
    exact List.mem_ofFn.mpr ⟨0, rfl⟩
  have hcount : ¬((clientPeer j).allowedIps = [] ∨ 16 < (clientPeer j).allowedIps.length) := by
    simp [clientPeer]
  have hunspecified : (IpAddr.v4 (BitVec.ofNat 32 (0x0a010001 + j))).isUnspecified = false := by
    refine beq_eq_false_iff_ne.mpr fun h => ?_
    have hzero := congrArg BitVec.toNat h
    rw [toNat_clientAddress hj] at hzero
    exact absurd hzero (by simp)
  have hmulticast : (IpAddr.v4 (BitVec.ofNat 32 (0x0a010001 + j))).isMulticast = false := by
    refine beq_eq_false_iff_ne.mpr fun h => ?_
    have hhigh := congrArg BitVec.toNat h
    rw [BitVec.toNat_ushiftRight, toNat_clientAddress hj, Nat.shiftRight_eq_div_pow] at hhigh
    have hquotient : (0x0a010001 + j) / 2 ^ 28 = 14 := hhigh
    omega
  rw [WireGuardNodePeer.validate, if_neg hkey]
  dsimp only
  rw [if_neg hcount]
  refine andThen_eq_ok.mpr ⟨validateEach_eq_ok.mpr ⟨fun route hroute => ⟨?_, List.not_mem_nil⟩, ?_⟩, rfl⟩
  · rw [List.mem_singleton.mp hroute]
    simp [hunspecified, hmulticast, IpAddr.width]
  · exact List.nodup_singleton _

theorem clientKey_ne {j j' : Nat} (hj : j < 4096) (hj' : j' < 4096) (hne : j ≠ j') :
    clientKey j ≠ clientKey j' := by
  intro hkey
  have hhigh : UInt8.ofNat (j / 256) = UInt8.ofNat (j' / 256) := by
    have h := congrArg (fun key : Key => key[1]) hkey
    simp only [clientKey, Vector.getElem_ofFn] at h
    exact h
  have hlow : UInt8.ofNat j = UInt8.ofNat j' := by
    have h := congrArg (fun key : Key => key[2]) hkey
    simp only [clientKey, Vector.getElem_ofFn] at h
    exact h
  have hhigh' := congrArg UInt8.toNat hhigh
  have hlow' := congrArg UInt8.toNat hlow
  rw [UInt8.toNat_ofNat', UInt8.toNat_ofNat'] at hhigh' hlow'
  omega

theorem clientPeer_compatible {j j' : Nat} (hj : j < 4096) (hj' : j' < 4096) (hne : j ≠ j') :
    Compatible (clientPeer j) (clientPeer j') := by
  refine ⟨clientKey_ne hj hj' hne, fun route hroute hroute' => ?_⟩
  have heq := (List.mem_singleton.mp hroute).symm.trans (List.mem_singleton.mp hroute')
  have hbits := congrArg BitVec.toNat (IpAddr.v4.inj (AllowedIp.mk.inj heq).1)
  rw [toNat_clientAddress hj, toNat_clientAddress hj'] at hbits
  omega

def crowdHost : Host where
  kernel :=
    { links := ∅, rules := 0, routes := fun _ => none, peers := fun _ _ => none,
      resolvers := fun _ => {}, policy := .disabled, gateway := none, sysctl := fun _ => [] }
  env := .calm
  log := []

def crowdStart : Call :=
  .start "cybn0" ⟨examplePort, [⟨.v4 0x0a010001#32, 16⟩], 1420⟩

def crowdTools : LinuxTools := ⟨"/usr/sbin/ip", "/usr/bin/wg", "/etc/wireguard/node.key"⟩

/-- A new node started and given so many clients. -/
def crowdedNode (m : Nat) : Outcome LinuxWireGuardNode Host Effect Empty Unit :=
  (Prog.session Call.run (crowdStart :: ((List.range m).map clientPeer).map Call.addPeer))
    (fresh crowdTools) crowdHost

theorem crowdedNode_roomy {m : Nat} (hm : m ≤ maximumNodePeers) :
    Roomy "cybn0" [] (crowdedNode m).self (crowdedNode m).world ∧
      (crowdedNode m).self.peers.length = m := by
  have hstarted : Roomy "cybn0" ((List.range m).map clientPeer)
      (crowdStart.run (fresh crowdTools) crowdHost).self
      (crowdStart.run (fresh crowdTools) crowdHost).world := by
    have hbound : ∀ j ∈ List.range m, j < 4096 := fun j hj =>
      (List.mem_range.mp hj).trans_le hm
    refine ⟨rfl, by decide +kernel, rfl, ?_, fun peer hpeer => ?_, fun peer _ hmem => (nomatch hmem),
      fun peer _ route _ key hmem => (nomatch hmem), ?_⟩
    · rw [List.length_map, List.length_range]
      exact (Nat.zero_add m).le.trans hm
    · obtain ⟨j, hj, rfl⟩ := List.mem_map.mp hpeer
      exact clientPeer_valid (hbound j hj)
    · refine List.pairwise_map.mpr (List.pairwise_lt_range.imp_of_mem fun hj hj' hlt => ?_)
      exact clientPeer_compatible (hbound _ hj) (hbound _ hj') hlt.ne
  obtain ⟨hend, hcount⟩ := hstarted.fill
  refine ⟨hend, hcount.trans ?_⟩
  rw [List.length_map, List.length_range]
  exact Nat.zero_add m

theorem sum_unseenRow (keys : List Key) :
    ((keys.map unseenRow).map HandshakeRow.size).sum = 47 * keys.length := by
  simp [Function.comp_def, unseenRow, HandshakeRow.size, Nat.mul_comm]

/-- What `wg` prints for the peers of a node none of which has been seen. -/
def unseenListing (n : LinuxWireGuardNode) : ProcessOutcome :=
  .exited true "exit status: 0" (listing (n.peers.map unseenRow)) ""

/-- The world of a crowded node, with that as its next answer. -/
def crowdedProbe (m : Nat) : Host :=
  { (crowdedNode m).world with
    env := { commands := [systemOutput (unseenListing (crowdedNode m).self)] } }

/-- From 1395 clients on, the lines no longer fit. -/
theorem health_crowdedNode {m : Nat} (hm : m ≤ maximumNodePeers) (hmany : 1395 ≤ m) (now : Nat) :
    (health now (crowdedNode m).self (crowdedProbe m)).result =
      .ok (crowdedNode m).self.failedProbe := by
  obtain ⟨hroomy, hcount⟩ := crowdedNode_roomy hm
  refine health_crowded now ((crowdedNode m).self.peers.map unseenRow) hroomy.active
    hroomy.link rfl ?_
  rw [sum_unseenRow, hcount, maximumOutputBytes]
  omega

/-- A node with 1395 clients: a probe that succeeded is reported as a
failure. -/
theorem health_fails_crowded :
    ((crowdedNode 1395).self.activeInterface = some "cybn0" ∧
      (crowdedNode 1395).self.peers.length = 1395 ∧ 1395 ≤ maximumNodePeers) ∧
    (health 1700000000 (crowdedNode 1395).self (crowdedProbe 1395)).result =
      .ok (crowdedNode 1395).self.failedProbe ∧
    (crowdedNode 1395).self.failedProbe.status ≠ .healthy := by
  have hm : 1395 ≤ maximumNodePeers := by decide
  obtain ⟨hroomy, hcount⟩ := crowdedNode_roomy hm
  exact ⟨⟨hroomy.active, hcount, hm⟩, health_crowdedNode hm (Nat.le_refl _) _, nofun⟩

/-- Two clients fit. -/
theorem health_accurate_two :
    let n := (crowdedNode 2).self
    let rows := n.peers.map unseenRow
    n.peers.length = 2 ∧
      (health 1700000000 n (crowdedProbe 2)).result = .ok ⟨.healthy, n.peers.length,
        n.peers.length, (rows.filter fun row => recentHandshake 1700000000 row.timestamp).length, 0⟩ := by
  intro n rows
  obtain ⟨hroomy, hcount⟩ := crowdedNode_roomy (show 2 ≤ maximumNodePeers by decide)
  refine ⟨hcount, (health_accurate_iff n (crowdedProbe 2) 1700000000 "cybn0" "exit status: 0" "" rows
    hroomy.active hroomy.link (List.length_map ..) rfl).mpr ⟨?_, fun row hrow => ?_⟩⟩
  · rw [sum_unseenRow, hcount]
    decide
  · obtain ⟨key, -, rfl⟩ := List.mem_map.mp hrow
    exact show 0 < 2 ^ 64 by decide

end LinuxWireGuardNode

end CyberiaVpn.Linux
