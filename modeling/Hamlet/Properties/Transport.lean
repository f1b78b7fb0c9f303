import Hamlet.BeaconManagement.Types

/-!
# One transport for broker, local client and devices

The broker's `mosquitto.conf`, the local client and the hand-out to devices must name
the same port and the same kind of transport. All three read `MQTT_TLS_ENABLED`; the
broker takes an unset variable for `true`, the client for `false`.
-/

namespace Hamlet

open UnixPath RustStr

/-- Whatever the settings, one listener is emitted, on the port handed to devices. -/
theorem listenerPorts_mosquittoConf (c : MqttBrokerageConfig) (caCertPem : String) :
    listenerPorts c.mosquittoConf = [(buildBrokerageInfo c caCertPem).port] := by
  cases tls : c.tlsEnabled <;>
    simp [listenerPorts, MqttBrokerageConfig.mosquittoConf, buildBrokerageInfo, tls]

/-! ### The text of the file -/

/-- When no line of a directive is broken, the lines of the file are those of its directives. -/
theorem lines_renderConf (conf : List Directive) (unbroken : ∀ d ∈ conf, '\n' ∉ d.line.toList) :
    (renderConf conf).toList.splitOn '\n' = conf.map (fun d => d.line.toList) ++ [[]] := by
  induction conf with
  | nil => rfl
  | cons d rest ih =>
    obtain ⟨here, later⟩ := List.forall_mem_cons.mp unbroken
    have text : (renderConf (d :: rest)).toList =
        d.line.toList ++ '\n' :: (renderConf rest).toList := by
      simp [renderConf]
    rw [text, List.splitOn_append_cons_self_of_not_mem here, ih later]
    rfl

def listenerKeyword : List Char := ['l', 'i', 's', 't', 'e', 'n', 'e', 'r', ' ']

/-- The lines of a text that name a port to listen on. -/
def listenerLines (text : String) : List (List Char) :=
  (text.toList.splitOn '\n').filter (listenerKeyword <+: ·)

/-- Two letters tell the keyword of a listener from the others. -/
theorem not_listener_of_keyword {keyword : String}
    (other : ¬['l', 'i'] <+: keyword.toList ∧ 2 ≤ keyword.toList.length) (value : String) :
    ¬listenerKeyword <+: (keyword ++ value).toList := by
  intro begins
  rw [String.toList_append] at begins
  have letters : ['l', 'i'] <+: keyword.toList ++ value.toList :=
    (by decide : ['l', 'i'] <+: listenerKeyword).trans begins
  exact other.1 (List.prefix_of_prefix_length_le letters (List.prefix_append ..) other.2)

theorem line_listener_iff (d : Directive) :
    listenerKeyword <+: d.line.toList ↔ ∃ port, d = .listener port := by
  cases d with
  | listener port =>
    have keyword : "listener ".toList = listenerKeyword := by decide +kernel
    have text : (Directive.listener port).line.toList =
        "listener ".toList ++ (toString port).toList := String.toList_append ..
    refine iff_of_true ?_ ⟨port, rfl⟩
    rw [text, keyword]
    exact List.prefix_append ..
  | blank => exact iff_of_false (by decide +kernel) (by simp)
  | _ => exact iff_of_false (not_listener_of_keyword (by decide +kernel) _) (by simp)

theorem filter_listener_lines (conf : List Directive) :
    (conf.map fun d => d.line.toList).filter (listenerKeyword <+: ·) =
      (listenerPorts conf).map fun port => (Directive.listener port).line.toList := by
  induction conf with
  | nil => rfl
  | cons d rest ih =>
    rw [List.map_cons]
    by_cases names : listenerKeyword <+: d.line.toList
    · obtain ⟨port, rfl⟩ := (line_listener_iff d).mp names
      rw [List.filter_cons_of_pos (by simpa using names), ih]
      rfl
    · have none : listenerPorts (d :: rest) = listenerPorts rest := by
        cases d with
        | listener port => exact absurd ((line_listener_iff _).mpr ⟨port, rfl⟩) names
        | _ => rfl
      rw [List.filter_cons_of_neg (by simpa using names), ih, none]

theorem listenerLines_renderConf (conf : List Directive)
    (unbroken : ∀ d ∈ conf, '\n' ∉ d.line.toList) :
    listenerLines (renderConf conf) =
      (listenerPorts conf).map fun port => (Directive.listener port).line.toList := by
  have last : ([[]] : List (List Char)).filter (listenerKeyword <+: ·) = [] := by decide
  rw [listenerLines, lines_renderConf conf unbroken, List.filter_append, last, List.append_nil,
    filter_listener_lines]

theorem unbroken_line {keyword value : String} (first : '\n' ∉ keyword.toList)
    (second : '\n' ∉ value.toList) : '\n' ∉ (keyword ++ value).toList := by
  rw [String.toList_append, List.mem_append, not_or]
  exact ⟨first, second⟩

/-- Only a path can break a line. -/
theorem unbroken_mosquittoConf (c : MqttBrokerageConfig)
    (paths : ∀ file ∈ [c.cafile, c.certfile, c.keyfile, c.passwordFile],
      '\n' ∉ file.display.toList) :
    ∀ d ∈ c.mosquittoConf, '\n' ∉ d.line.toList := by
  simp only [List.forall_mem_cons] at paths
  obtain ⟨cafile, certfile, keyfile, passwordFile, _⟩ := paths
  have common : ∀ d ∈ [Directive.comment "Auto-generated by hamlet", .persistence false,
      .logDest "stderr", .blank], '\n' ∉ d.line.toList := by decide +kernel
  have port (n : UInt16) : '\n' ∉ (toString n).toList := fun broken =>
    absurd ((isDigits_toString n.toNat).2 _ broken) (by decide)
  rw [MqttBrokerageConfig.mosquittoConf, List.forall_mem_append]
  refine ⟨common, ?_⟩
  cases c.tlsEnabled with
  | true =>
    simp only [if_true, List.forall_mem_cons]
    exact ⟨unbroken_line (by decide +kernel) (port _), by decide +kernel,
      unbroken_line (by decide +kernel) cafile, unbroken_line (by decide +kernel) certfile,
      unbroken_line (by decide +kernel) keyfile, by decide +kernel⟩
  | false =>
    simp only [Bool.false_eq_true, if_false, List.forall_mem_cons]
    exact ⟨unbroken_line (by decide +kernel) (port _), by decide +kernel,
      unbroken_line (by decide +kernel) passwordFile, by simp⟩

/-- When no path in it breaks a line, the file that is written has one listener, on the port
handed to devices. -/
theorem listenerLines_mosquittoConf (c : MqttBrokerageConfig) (caCertPem : String)
    (paths : ∀ file ∈ [c.cafile, c.certfile, c.keyfile, c.passwordFile],
      '\n' ∉ file.display.toList) :
    listenerLines (renderConf c.mosquittoConf) =
      [(Directive.listener (buildBrokerageInfo c caCertPem).port).line.toList] := by
  rw [listenerLines_renderConf _ (unbroken_mosquittoConf c paths),
    listenerPorts_mosquittoConf c caCertPem]
  rfl

/-! ### Who agrees -/

end Hamlet
