import Hamlet.Properties.Handshake

/-!
# Where a handshake writes

`register_cert_identity` appends `.crt` to a hostname chosen by the device and joins the
result to the directory of `cafile`, which also holds the node's own certificates. The
written file stays beside `cafile` and spares the node's files exactly for the hostnames
of `SafeHostname`.
-/

namespace Hamlet

open UnixPath

/-- The certificate and key files of broker and local client. -/
def nodeFiles (c : Config) : List AbsPath :=
  [c.mqttBrokerage.cafile, c.mqttBrokerage.certfile, c.mqttBrokerage.keyfile] ++
    c.mqttClient.certfile.toList ++ c.mqttClient.keyfile.toList

/-- A direct child of the directory of `cafile`, and none of the node's files. -/
def IsSafeTarget (c : Config) (file : AbsPath) : Prop :=
  (∃ certsDir, c.mqttBrokerage.cafile.parent = some certsDir ∧
    ∃ name, file.resolve = certsDir.resolve ++ [name]) ∧
  ∀ own ∈ nodeFiles c, file.resolve ≠ own.resolve

/-- The text up to and including the last separator. -/
def dirPart (hostname : String) : String := String.ofList (hostname.toList.rdropWhile (· ≠ '/'))

/-- The text after the last separator. -/
def namePart (hostname : String) : String := String.ofList (hostname.toList.rtakeWhile (· ≠ '/'))

/-- The directory part of the hostname leads from the certificate directory back to it, and
what follows is not the name of one of the node's files there. -/
def SafeHostname (c : Config) (hostname : String) : Prop :=
  ∀ certsDir, c.mqttBrokerage.cafile.parent = some certsDir →
    (certsDir.join (dirPart hostname)).resolve = certsDir.resolve ∧
    ∀ own ∈ nodeFiles c, own.resolve ≠ certsDir.resolve ++ [namePart hostname ++ ".crt"]

theorem dirPart_append_namePart (hostname : String) :
    dirPart hostname ++ namePart hostname = hostname := by
  rw [← String.toList_inj, String.toList_append, dirPart, namePart, String.toList_ofList,
    String.toList_ofList, List.rdropWhile, List.rtakeWhile, ← List.reverse_append,
    List.takeWhile_append_dropWhile, List.reverse_reverse]

theorem slash_notMem_namePart (hostname : String) : '/' ∉ (namePart hostname).toList := by
  rw [namePart, String.toList_ofList]
  intro member
  simpa using List.mem_rtakeWhile_imp member

theorem dirPart_ends (hostname : String) :
    (dirPart hostname).toList = [] ∨ ∃ front, (dirPart hostname).toList = front ++ ['/'] := by
  rw [dirPart, String.toList_ofList]
  by_cases empty : hostname.toList.rdropWhile (· ≠ '/') = []
  · exact .inl empty
  · have last := List.rdropWhile_last_not (· ≠ '/') hostname.toList empty
    have slash : (hostname.toList.rdropWhile (· ≠ '/')).getLast empty = '/' := by
      simpa using last
    exact .inr ⟨_, slash ▸ (List.dropLast_append_getLast empty).symm⟩

/-- The written file lies one level below where the hostname's directory part leads. -/
theorem resolve_certPath (certsDir : AbsPath) (hostname : String) :
    (certsDir.join (hostname ++ ".crt")).resolve =
      (certsDir.join (dirPart hostname)).resolve ++ [namePart hostname ++ ".crt"] := by
  have suffix : (namePart hostname ++ ".crt").toList.getLast? = some 't' := by
    simp [String.toList_append]
  rw [← AbsPath.resolve_join_append certsDir (dirPart hostname) _ (dirPart_ends hostname),
    ← String.append_assoc, dirPart_append_namePart]
  · -- appending the extension adds no separator
    simp [String.toList_append, slash_notMem_namePart]
  · -- the extension keeps the name from being empty or a dot
    rw [AbsPath.skipped, Bool.or_eq_false_iff, beq_eq_false_iff_ne, beq_eq_false_iff_ne]
    constructor <;> intro same <;> rw [same] at suffix <;> revert suffix <;> decide
  · intro same
    rw [same] at suffix
    revert suffix
    decide

theorem isSafeTarget_certPath_iff (c : Config) (hostname : String) :
    (∀ file, certPath c.mqttBrokerage hostname = some file → IsSafeTarget c file) ↔
      SafeHostname c hostname := by
  unfold certPath IsSafeTarget SafeHostname
  cases parent : c.mqttBrokerage.cafile.parent with
  | none =>
    -- nothing is written, and nothing is demanded
    simp
  | some certsDir =>
    simp only [Option.map_some, Option.some.injEq, forall_eq', exists_eq_left', resolve_certPath]
    constructor
    · rintro ⟨⟨name, child⟩, spared⟩
      -- both sides end in one name, so the directories agree
      have dir : (certsDir.join (dirPart hostname)).resolve = certsDir.resolve :=
        (List.append_inj' child rfl).1
      refine ⟨dir, fun own member same => spared own member ?_⟩
      rw [dir, same]
    · rintro ⟨dir, spared⟩
      refine ⟨⟨_, by rw [dir]⟩, fun own member same => spared own member ?_⟩
      rw [← same, dir]

/-- The files one request adds to the identity files. -/
def newFiles (before after : Node) : List (AbsPath × String) :=
  after.identityFiles.drop before.identityFiles.length

/-- A handshake that gets past signing and the identity step writes the identity file. -/
theorem handleDeviceInit_writes (rcgen : Rcgen) (serde : Serde) (app : AppState)
    (env : RequestEnv) (req : Request) (node : Node) (request : DeviceInitRequest)
    (row : DeviceCert) (parsed : DeviceInitRequest.processRequest serde req = .ok request)
    (stored : CaService.storedRow rcgen env.signing node.ca.state request.device.mdns.hostname
      request.device.csrPem = some row)
    (succeeds : ¬IdentityFails app env request.device.mdns.hostname) :
    newFiles node (handleDeviceInit rcgen serde app env req node).2 =
      identityWrites app request.device.mdns.hostname row.certPem := by
  rcases handleDeviceInit_cases rcgen serde app env req node with
    ⟨response, parsed', _⟩ | ⟨request', parsed', ⟨unsigned, _⟩ |
      ⟨row', stored', ⟨fails, _⟩ | ⟨_, handled⟩⟩⟩
  · cases parsed.symm.trans parsed'
  all_goals cases parsed.symm.trans parsed'
  · cases stored.symm.trans unsigned
  · exact absurd fails succeeds
  · cases stored.symm.trans stored'
    simp [handled, newFiles, announceBeacon]

/-- A handshake writes at most the file its hostname determines. -/
theorem newFiles_handleDeviceInit (rcgen : Rcgen) (serde : Serde) (app : AppState)
    (env : RequestEnv) (req : Request) (node : Node) (file : AbsPath × String)
    (written : file ∈ newFiles node (handleDeviceInit rcgen serde app env req node).2) :
    ∃ request config, DeviceInitRequest.processRequest serde req = .ok request ∧
      app.brokerage = some config ∧
      certPath config request.device.mdns.hostname = some file.1 := by
  rcases handleDeviceInit_cases rcgen serde app env req node with
    ⟨response, parsed, handled⟩ | ⟨request, parsed, ⟨stored, handled⟩ |
      ⟨row, stored, ⟨fails, handled⟩ | ⟨succeeds, _⟩⟩⟩
  · simp [handled, newFiles] at written
  · simp [handled, newFiles] at written
  · simp [handled, newFiles] at written
  · rw [handleDeviceInit_writes rcgen serde app env req node request row parsed stored succeeds]
      at written
    simp only [identityWrites, Option.mem_toList, Option.map_eq_some_iff,
      Option.bind_eq_some_iff] at written
    obtain ⟨path, ⟨config, brokerage, path_eq⟩, rfl⟩ := written
    exact ⟨request, config, parsed, brokerage, path_eq⟩

/-- Every handshake of a device with this hostname writes only safe files. -/
def HandshakesSpareNodeFiles (c : Config) (hostname : String) : Prop :=
  ∀ rcgen serde app env req node request,
    app.brokerage = some c.mqttBrokerage →
    DeviceInitRequest.processRequest serde req = .ok request →
    request.device.mdns.hostname = hostname →
    ∀ file ∈ newFiles node (handleDeviceInit rcgen serde app env req node).2,
      IsSafeTarget c file.1

/-- For every environment, the handshakes of a device stay beside `cafile` and spare the
node's own files exactly when its hostname is safe. -/
theorem handshakes_spare_node_files_iff (cwd : AbsPath) (env : Env) (hostname : String) :
    HandshakesSpareNodeFiles (Config.fromEnv cwd env) hostname ↔
      SafeHostname (Config.fromEnv cwd env) hostname := by
  rw [← isSafeTarget_certPath_iff]
  constructor
  · -- an accepted sample handshake with this hostname writes exactly that file
    intro spares path path_eq
    refine spares sampleRcgen (sampleSerde hostname)
      (sampleApp (some (Config.fromEnv cwd env).mqttBrokerage)) (sampleEnv 1 (.ok ())) initRequest
      sampleNode ⟨"0.0.1", "localhost", ⟨"10.0.0.7", ⟨hostname, 80⟩, sampleCsr⟩⟩ rfl rfl rfl
      (path, "root signs 1") ?_
    have written := handleDeviceInit_writes sampleRcgen (sampleSerde hostname)
      (sampleApp (some (Config.fromEnv cwd env).mqttBrokerage)) (sampleEnv 1 (.ok ())) initRequest
      sampleNode _ _ rfl rfl (by simp [IdentityFails, sampleApp, sampleEnv, path_eq])
    rw [written]
    simp only [identityWrites, sampleApp, Option.bind_some, path_eq, Option.map_some,
      Option.toList_some, List.mem_singleton]
    rfl
  · intro safe rcgen serde app renv req node request brokerage parsed same file written
    obtain ⟨request', config, parsed', brokerage', path⟩ :=
      newFiles_handleDeviceInit rcgen serde app renv req node file written
    cases parsed.symm.trans parsed'
    cases brokerage.symm.trans brokerage'
    exact safe file.1 (same ▸ path)

/-- With no variable set, a device that calls itself `ca` replaces the CA certificate. -/
theorem hostname_ca_overwrites_cafile :
    ¬HandshakesSpareNodeFiles (Config.fromEnv (.ofRest "opt/hamlet".toList) fun _ => none) "ca" := by
  intro spares
  let config := Config.fromEnv (.ofRest "opt/hamlet".toList) fun _ => none
  have overwritten : (config.mqttBrokerage.cafile, "root signs 1") ∈ newFiles sampleNode
      (handleDeviceInit sampleRcgen (sampleSerde "ca") (sampleApp (some config.mqttBrokerage))
        (sampleEnv 1 (.ok ())) initRequest sampleNode).2 := by decide
  have safe := spares _ _ _ _ _ _ _ rfl rfl rfl _ overwritten
  exact safe.2 config.mqttBrokerage.cafile (by simp [nodeFiles, config]) rfl

end Hamlet
