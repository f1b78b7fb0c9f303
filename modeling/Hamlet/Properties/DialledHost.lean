import Hamlet.Lib.UriHost
import Hamlet.Properties.Handshake

/-!
# The host a device dialled

A device is told to use the broker at the host that it dialled for the handshake, which is the
`Host` header without its port. A header with an IPv6 literal keeps its port.
-/

namespace Hamlet

open RustStr UriHost

/-- The bytes of a header value. -/
def headerBytes (text : String) : List UInt8 := text.toList.map fun c => UInt8.ofNat c.toNat

theorem toStr?_headerBytes {text : String} (visible : ∀ c ∈ text.toList, IsVisibleAscii c) :
    Request.toStr? (headerBytes text) = some text := by
  have byte : ∀ c ∈ text.toList, (UInt8.ofNat c.toNat).toNat = c.toNat := by
    intro c member
    have bounds := visible c member
    unfold IsVisibleAscii at bounds
    rw [UInt8.toNat_ofNat', Nat.mod_eq_of_lt (by omega)]
  have accepted : (headerBytes text).all fun b => (32 ≤ b && b < 127) || b == 9 := by
    simp only [headerBytes, List.all_map, List.all_eq_true, Function.comp_apply, Bool.or_eq_true,
      Bool.and_eq_true, decide_eq_true_eq, UInt8.le_iff_toNat_le, UInt8.lt_iff_toNat_lt]
    intro c member
    left
    rw [byte c member]
    have bounds := visible c member
    exact ⟨bounds.1.le, bounds.2⟩
  have decoded : (headerBytes text).map (fun b => Char.ofNat b.toNat) = text.toList := by
    rw [headerBytes, List.map_map, List.map_congr_left (g := id), List.map_id]
    intro c member
    simp only [Function.comp_apply, byte c member, Char.ofNat_toNat, id]
  rw [Request.toStr?, if_pos accepted, decoded, String.ofList_toList]

theorem stripPort_of_split {host before after : String}
    (split : rsplitOnce host ':' = some (before, after)) (plain : host.toList.head? ≠ some '[') :
    stripPort host = before := by
  obtain ⟨member, parts⟩ := Option.ite_none_right_eq_some.mp split
  cases parts
  simp only [stripPort]
  rw [if_pos ⟨member, plain⟩]

theorem stripPort_of_no_colon {host : String} (noColon : ':' ∉ host.toList) :
    stripPort host = host := by
  simp only [stripPort]
  rw [if_neg (fun both => noColon both.1)]

/-- A literal keeps whatever follows it. -/
theorem stripPort_of_bracket {host : String} (opening : host.toList.head? = some '[') :
    stripPort host = host := by
  simp only [stripPort]
  rw [if_neg (fun both => both.2 opening)]

theorem not_mem_of_isRegName {host : String} (regName : IsRegName host) {c : Char}
    (other : ¬isRegNameChar c) : c ∉ host.toList :=
  fun member => other (regName.2 c member)

theorem plain_of_isRegName {host : String} (regName : IsRegName host) (rest : String) :
    (host ++ rest).toList.head? ≠ some '[' := by
  intro opening
  have nonempty : host.toList ≠ [] := by simpa using regName.1
  rw [String.toList_append, List.head?_append_of_ne_nil _ nonempty] at opening
  exact not_mem_of_isRegName regName (by decide) (List.mem_of_mem_head? opening)

theorem stripPort_regName {host : String} {port : Option String} (regName : IsRegName host)
    (digits : ∀ text ∈ port, ∀ c ∈ text.toList, c.isDigit) :
    stripPort (host ++ portSuffix port) = host := by
  cases port with
  | none =>
    rw [portSuffix, String.append_empty]
    exact stripPort_of_no_colon (not_mem_of_isRegName regName (by decide))
  | some text =>
    have noColon : ':' ∉ text.toList := fun member =>
      absurd (digits text rfl ':' member) (by decide)
    have split : rsplitOnce (host ++ portSuffix (some text)) ':' = some (host, text) :=
      (rsplitOnce_eq_some_iff ..).mpr ⟨by simp [portSuffix], noColon⟩
    exact stripPort_of_split split (plain_of_isRegName regName _)

theorem stripPort_bracketed (v6 : String) (port : Option String) :
    stripPort (bracketed v6 ++ portSuffix port) = bracketed v6 ++ portSuffix port := by
  apply stripPort_of_bracket
  simp [bracketed]

/-- The port of a dialled host is stripped exactly where it does not follow a literal. -/
theorem stripPort_iff {host : String} {port : Option String}
    (isHost : IsRegName host ∨ IsBracketed host)
    (digits : ∀ text ∈ port, ∀ c ∈ text.toList, c.isDigit) :
    stripPort (host ++ portSuffix port) = host ↔ (IsBracketed host → port = none) := by
  rcases isHost with regName | ⟨v6, literal, rfl⟩
  · refine iff_of_true (stripPort_regName regName digits) ?_
    rintro ⟨v6, literal, rfl⟩
    exact absurd (by simp [bracketed]) (not_mem_of_isRegName regName (c := '[') (by decide))
  · rw [stripPort_bracketed, imp_iff_right ⟨v6, literal, rfl⟩]
    cases port with
    | none => simp [portSuffix]
    | some text => simp [portSuffix]

/-! ### The answer to a handshake -/

theorem processRequest_cases (serde : Serde) (req : Request) :
    (∃ status msg, DeviceInitRequest.processRequest serde req = .error (textResponse status msg)) ∨
    ∃ request, DeviceInitRequest.processRequest serde req = .ok request ∧
      request.brokerHost =
        (((req.header? headerHost).bind Request.toStr?).map stripPort).getD "localhost" := by
  unfold DeviceInitRequest.processRequest
  split
  next => exact .inl ⟨_, _, rfl⟩
  next version _ =>
    split
    next => exact .inl ⟨_, _, rfl⟩
    next =>
      dsimp only
      split
      next => exact .inl ⟨_, _, rfl⟩
      next =>
        split
        next => exact .inl ⟨_, _, rfl⟩
        next => exact .inr ⟨_, rfl, rfl⟩

section

variable (rcgen : Rcgen) (serde : Serde) (app : AppState) (env : RequestEnv)

/-- An answer with broker details has the address that the request was parsed to. -/
theorem address_of_answer {req : Request} {node : Node} {certPem beaconId : String}
    {brokerage : MqttBrokerageInfo}
    (answered : (handleDeviceInit rcgen serde app env req node).1.body =
      .deviceInit certPem brokerage beaconId) :
    brokerage.address =
      (((req.header? headerHost).bind Request.toStr?).map stripPort).getD "localhost" := by
  rcases processRequest_cases serde req with ⟨status, msg, refused⟩ | ⟨request, parsed, host⟩
  · simp only [handleDeviceInit, refused] at answered
    cases answered
  · rcases handleDeviceInit_cases rcgen serde app env req node with
      ⟨response, refused, _⟩ |
        ⟨request', parsed', ⟨_, handled⟩ | ⟨row, _, ⟨_, handled⟩ | ⟨_, handled⟩⟩⟩
    · cases parsed.symm.trans refused
    · rw [handled] at answered
      cases answered
    · rw [handled] at answered
      cases answered
    · cases parsed.symm.trans parsed'
      rw [handled] at answered
      cases answered
      exact host

/-- A device that dialled `host[:port]` is told exactly the host, except that the port stays on
an IPv6 literal. -/
theorem told_dialled_host_iff (req : Request) (node : Node) (host : String) (port : Option String)
    (isHost : IsRegName host ∨ IsBracketed host)
    (digits : ∀ text ∈ port, ∀ c ∈ text.toList, c.isDigit)
    (dialled : req.header? headerHost = some (headerBytes (host ++ portSuffix port)))
    (certPem beaconId : String) (brokerage : MqttBrokerageInfo)
    (answered : (handleDeviceInit rcgen serde app env req node).1.body =
      .deviceInit certPem brokerage beaconId) :
    brokerage.address = host ↔ (IsBracketed host → port = none) := by
  have visible : ∀ c ∈ (host ++ portSuffix port).toList, IsVisibleAscii c := by
    intro c member
    rw [String.toList_append, List.mem_append] at member
    rcases member with inHost | inPort
    · rcases isHost with regName | inBrackets
      · exact isVisibleAscii_of_isRegNameChar (regName.2 c inHost)
      · exact isVisibleAscii_of_isBracketed inBrackets c inHost
    · exact isVisibleAscii_of_portSuffix digits c inPort
  have address := address_of_answer rcgen serde app env answered
  rw [dialled, Option.bind_some, toStr?_headerBytes visible, Option.map_some, Option.getD_some]
    at address
  rw [address]
  exact stripPort_iff isHost digits

end

/-- A handshake at this `Host`. -/
def dialRequest (host : String) : Request where
  headers := initRequest.headers ++ [(headerHost, headerBytes host)]
  body := initRequest.body

theorem told_plain_host :
    ∃ certPem brokerage beaconId,
      (handleDeviceInit sampleRcgen (sampleSerde "lamp") (sampleApp none) (sampleEnv 1 (.ok ()))
        (dialRequest "192.168.2.39:8080") sampleNode).1.body =
          .deviceInit certPem brokerage beaconId ∧
      brokerage.address = "192.168.2.39" := by
  refine ⟨_, _, _, rfl, ?_⟩
  refine (told_dialled_host_iff sampleRcgen (sampleSerde "lamp") (sampleApp none)
    (sampleEnv 1 (.ok ())) (dialRequest "192.168.2.39:8080") sampleNode "192.168.2.39" (some "8080")
    (.inl (by decide)) ?_ rfl _ _ _ rfl).mpr ?_
  · rintro text ⟨⟩
    have all : "8080".toList.all Char.isDigit := by decide
    exact List.all_eq_true.mp all
  · rintro ⟨v6, _, same⟩
    have heads := congrArg (fun text => text.toList.head?) same
    simp [bracketed] at heads

/-- A device at `[::1]:8080` is told the port of the handshake as part of the address. -/
theorem told_literal_with_port :
    ∃ certPem brokerage beaconId,
      (handleDeviceInit sampleRcgen (sampleSerde "lamp") (sampleApp none) (sampleEnv 1 (.ok ()))
        (dialRequest (bracketed "::1" ++ portSuffix (some "8080"))) sampleNode).1.body =
          .deviceInit certPem brokerage beaconId ∧
      isIpv6 "::1" ∧ brokerage.address = "[::1]:8080" ∧ brokerage.address ≠ bracketed "::1" :=
  ⟨_, _, _, rfl, by decide, by decide, by decide⟩

end Hamlet
