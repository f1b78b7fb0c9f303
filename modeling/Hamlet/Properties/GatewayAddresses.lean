import Mathlib.Data.Set.Finite.Basic
import Hamlet.Properties.GatewayExclusion
import Hamlet.Properties.WebSocketUrl

/-!
# One connection for each address

`known_gateways` compares the text of URLs, and `compute_ws_url` dials many texts at one address.
A beacon that spells a known gateway differently therefore gets a second connection to it.
-/

namespace Hamlet

open BeaconRegistry

theorem withSlashes_injective (url : String) : Function.Injective (withSlashes url) := by
  intro n m same
  have lengths := congrArg (fun text => text.toList.length) same
  simpa [withSlashes] using lengths

/-- Every address is dialled for more URLs than the registry knows. -/
theorem exists_unknown_spelling (reg : BeaconRegistry) (url : String) :
    ∃ other, computeWsUrl url = computeWsUrl other ∧ other ∉ reg.knownGateways := by
  -- the spellings with slashes are infinitely many, the known URLs are not
  by_contra! known
  have all : ∀ n, withSlashes url n ∈ (reg.knownGateways : Set String) := fun n =>
    known (withSlashes url n) (computeWsUrl_withSlashes url n).symm
  exact Set.infinite_of_injective_forall_mem (withSlashes_injective url) all
    reg.knownGateways.finite_toSet

/-! ### What is known and opened -/

section

variable (fromSlice : List UInt8 → Option Json) (serverUrl : String) (loop : MessageLoop)

theorem handleMessage_knownGateways (msg : MqttMessage) (now : Nat) :
    (loop.handleMessage fromSlice serverUrl msg now).registry.knownGateways =
      (MessageLoop.beaconGatewayUrl fromSlice msg).toFinset ∪ loop.registry.knownGateways := by
  have refreshed := refreshSender_knownGateways loop.registry msg now
  simp only [MessageLoop.handleMessage]
  cases MessageLoop.beaconGatewayUrl fromSlice msg with
  | none => simpa using refreshed
  | some url =>
    simp only [isGatewayKnown, refreshed, decide_eq_true_eq, Option.toFinset_some,
      Finset.singleton_union]
    split
    next known => rw [refreshed, Finset.insert_eq_of_mem known]
    next =>
      simp only [MessageLoop.joinGateway]
      split <;> simp [associateGateway, insertGateway, refreshed]

/-- A connection is opened exactly for a URL whose text is not known. -/
theorem handleMessage_connections_iff (msg : MqttMessage) (now : Nat) (url : String)
    (advertised : MessageLoop.beaconGatewayUrl fromSlice msg = some url) :
    (loop.handleMessage fromSlice serverUrl msg now).connections = loop.connections ↔
      url ∈ loop.registry.knownGateways := by
  have refreshed := refreshSender_knownGateways loop.registry msg now
  simp only [MessageLoop.handleMessage, advertised, isGatewayKnown, refreshed, decide_eq_true_eq]
  split
  next known => simp [known]
  next unknown =>
    simp only [MessageLoop.joinGateway]
    split <;> simp [unknown]

end

theorem foldl_deregister_knownGateways_subset (order : List String) (reg : BeaconRegistry) :
    (order.foldl deregister reg).knownGateways ⊆ reg.knownGateways := by
  induction order generalizing reg with
  | nil => exact Finset.Subset.refl _
  | cons id order ih =>
    apply (ih (reg.deregister id)).trans
    intro url member
    exact ((mem_knownGateways_deregister reg id url).mp member).1

theorem dropSweep_knownGateways_subset {reg reg' : BeaconRegistry} {cut : Cut}
    (dropped : reg.dropSweep cut = some reg') : reg'.knownGateways ⊆ reg.knownGateways := by
  cases cut with
  | tick =>
    cases dropped
    exact Finset.Subset.refl _
  | during now done current rest point =>
    simp only [dropSweep] at dropped
    obtain ⟨_, abandoned⟩ := Option.ite_none_right_eq_some.mp dropped
    have same : reg'.knownGateways = (done.foldl deregister reg).knownGateways := by
      obtain rfl | ⟨record, rfl⟩ := abandon_cases abandoned <;> simp
    rw [same]
    exact foldl_deregister_knownGateways_subset done reg

/-! ### One spelling for each address -/

/-- No two known gateways are dialled at one address. -/
def OneSpelling (reg : BeaconRegistry) : Prop :=
  ∀ a ∈ reg.knownGateways, ∀ b ∈ reg.knownGateways, computeWsUrl a = computeWsUrl b → a = b

/-- A gateway whose address is dialled already is advertised with the known text. -/
def SpelledAsKnown (fromSlice : List UInt8 → Option Json) (loop : MessageLoop) : LoopEvent → Prop
  | .message cut msg _ =>
    (loop.registry.dropSweep cut).all fun reg =>
      (MessageLoop.beaconGatewayUrl fromSlice msg).all fun url =>
        decide (∀ known ∈ reg.knownGateways, computeWsUrl known = computeWsUrl url →
          url ∈ reg.knownGateways)
  | .channel _ _ _ _ | .timeouts _ _ => True

instance (fromSlice : List UInt8 → Option Json) (loop : MessageLoop) :
    DecidablePred (SpelledAsKnown fromSlice loop)
  | .message _ _ _ => inferInstanceAs (Decidable (_ = true))
  | .channel _ _ _ _ | .timeouts _ _ => inferInstanceAs (Decidable True)

theorem OneSpelling.subset {reg reg' : BeaconRegistry} (one : OneSpelling reg)
    (fewer : reg'.knownGateways ⊆ reg.knownGateways) : OneSpelling reg' :=
  fun a first b second => one a (fewer first) b (fewer second)

theorem oneSpelling_insert_iff {reg reg' : BeaconRegistry} (one : OneSpelling reg) (url : String)
    (learned : reg'.knownGateways = insert url reg.knownGateways) :
    OneSpelling reg' ↔
      ∀ known ∈ reg.knownGateways, computeWsUrl known = computeWsUrl url →
        url ∈ reg.knownGateways := by
  simp only [OneSpelling, learned]
  constructor
  · intro one' known member same
    have text := one' known (Finset.mem_insert_of_mem member) url (Finset.mem_insert_self ..) same
    exact text ▸ member
  · intro spelled a first b second same
    rw [Finset.mem_insert] at first second
    -- `url` may be one of the two; its address then belongs to its own text only
    rcases first with rfl | first
    · rcases second with rfl | second
      · rfl
      · exact one a (spelled b second same.symm) b second same
    · rcases second with rfl | second
      · exact one a first b (spelled a first same) same
      · exact one a first b second same

theorem oneSpelling_step_iff (fromSlice : List UInt8 → Option Json) (serverUrl : String)
    {loop loop' : MessageLoop} (one : OneSpelling loop.registry) (event : LoopEvent)
    (stepped : loop.step fromSlice serverUrl event = some loop') :
    OneSpelling loop'.registry ↔ SpelledAsKnown fromSlice loop event := by
  cases event with
  | channel cut channel now subscribed =>
    obtain ⟨reg, dropped, rfl⟩ := Option.map_eq_some_iff.mp stepped
    refine iff_of_true (one.subset ?_) trivial
    simp only [registerChannel_knownGateways]
    exact dropSweep_knownGateways_subset dropped
  | timeouts now order =>
    obtain ⟨reg, swept, rfl⟩ := Option.map_eq_some_iff.mp stepped
    refine iff_of_true (one.subset ?_) trivial
    simp only [(sweepEffect_checkTimeouts swept).knownGateways]
    exact Finset.sdiff_subset
  | message cut msg now =>
    obtain ⟨reg, dropped, rfl⟩ := Option.map_eq_some_iff.mp stepped
    have kept := one.subset (dropSweep_knownGateways_subset dropped)
    have learned := handleMessage_knownGateways fromSlice serverUrl { loop with registry := reg } msg now
    simp only [SpelledAsKnown, dropped, Option.all_some]
    cases advertised : MessageLoop.beaconGatewayUrl fromSlice msg with
    | none =>
      refine iff_of_true (kept.subset ?_) rfl
      rw [learned, advertised]
      simp
    | some url =>
      rw [advertised, Option.toFinset_some, Finset.singleton_union] at learned
      rw [oneSpelling_insert_iff kept url learned, Option.all_some, decide_eq_true_eq]

/-- In every reachable state, an advert of an address that is dialled already opens no second
connection exactly when its text is known. That is not so for every spelling of the address
unless no gateway is known at all; and a run has one spelling for each address throughout
exactly when every advert in it keeps to the known texts. -/
theorem duplicates_found_by_spelling (fromSlice : List UInt8 → Option Json) (serverUrl : String)
    (own : Option String) (events : List LoopEvent) (loop : MessageLoop)
    (ran : Runs.run (MessageLoop.step fromSlice serverUrl) (.init own) events = some loop) :
    (∀ a b msg now, computeWsUrl a = computeWsUrl b → a ∈ loop.registry.knownGateways →
      MessageLoop.beaconGatewayUrl fromSlice msg = some b →
      ((loop.handleMessage fromSlice serverUrl msg now).connections = loop.connections ∧
        loop.registry.isGatewayKnown a = loop.registry.isGatewayKnown b ↔
          b ∈ loop.registry.knownGateways)) ∧
    ((∀ a b, computeWsUrl a = computeWsUrl b →
      loop.registry.isGatewayKnown a = loop.registry.isGatewayKnown b) ↔
        loop.registry.knownGateways = ∅) ∧
    (Runs.Always (MessageLoop.step fromSlice serverUrl) (OneSpelling ·.registry) (.init own) events ↔
      Runs.run (Runs.restrict (SpelledAsKnown fromSlice) (MessageLoop.step fromSlice serverUrl))
        (.init own) events = some loop) := by
  refine ⟨?_, ?_, ?_⟩
  · intro a b msg now same known advertised
    rw [handleMessage_connections_iff fromSlice serverUrl loop msg now b advertised]
    simp [isGatewayKnown, known]
  · constructor
    · intro agree
      apply Finset.eq_empty_of_forall_notMem
      intro a known
      obtain ⟨b, same, unknown⟩ := exists_unknown_spelling loop.registry a
      simpa [isGatewayKnown, known, unknown] using agree a b same
    · intro empty a b _
      simp [isGatewayKnown, empty]
  · have initial : OneSpelling (MessageLoop.init own).registry := by
      intro a first b second _
      simp only [MessageLoop.init, BeaconRegistry.new, Option.mem_toFinset, Option.mem_def] at first second
      exact Option.some.inj (first.symm.trans second)
    exact Runs.always_iff_restrict _ _ (fun _ => True) (OneSpelling ·.registry)
      (fun _ _ _ _ _ => trivial)
      (fun _ event _ _ one stepped => oneSpelling_step_iff fromSlice serverUrl one event stepped)
      (.init own) loop events trivial initial ran

/-- The JSON text of an advert, and what the parser makes of it. -/
def spellingBytes : List UInt8 :=
  "\x7b\"gateway_url\":\"http://hub/\"\x7d".toList.map fun c => UInt8.ofNat c.toNat

def spellingFromSlice (bytes : List UInt8) : Option Json :=
  if bytes = spellingBytes then some (.object [("gateway_url", .string "http://hub/")]) else none

def slashMessage : MqttMessage := ⟨"7b1d/rec", spellingBytes⟩

/-- A registered beacon advertises a gateway with a slash. -/
def slashAdvert : List LoopEvent :=
  [.channel .tick (listenChannel "7b1d") 0 (.ok ()), .message .tick slashMessage 1]

/-- Where no gateway is known under that address, the run has one spelling for each. -/
theorem slash_advert_of_new_gateway :
    ∃ loop, Runs.run (MessageLoop.step spellingFromSlice "hamlet") (.init none) slashAdvert = some loop ∧
      Runs.Always (MessageLoop.step spellingFromSlice "hamlet") (OneSpelling ·.registry) (.init none)
        slashAdvert := by
  refine ⟨_, rfl, ?_⟩
  exact (duplicates_found_by_spelling spellingFromSlice "hamlet" none slashAdvert _ rfl).2.2.mpr rfl

/-- The gateway is the configured one, which is spelled without the slash: the beacon gets a
connection of its own to the same address. -/
theorem slash_opens_second_connection :
    ∃ loop, Runs.run (MessageLoop.step spellingFromSlice "hamlet") (.init (some "http://hub"))
        [.channel .tick (listenChannel "7b1d") 0 (.ok ())] = some loop ∧
      "http://hub" ∈ loop.registry.knownGateways ∧
      computeWsUrl "http://hub" = computeWsUrl "http://hub/" ∧
      MessageLoop.beaconGatewayUrl spellingFromSlice slashMessage = some "http://hub/" ∧
      loop.registry.isGatewayKnown "http://hub/" = false ∧ loop.connections.length = 0 ∧
      (loop.handleMessage spellingFromSlice "hamlet" slashMessage 1).connections.map (·.wsUrl) =
        [computeWsUrl "http://hub"] :=
  ⟨_, rfl, by decide, by decide, rfl, by decide, rfl, by decide⟩

end Hamlet
