import ScyllaDriver.FirstFailures

/-! Addresses given in Python: how they are parsed, and the translator that maps them by a dict.
A Python translator may ask the built-in one; what it passes on are an ip and a port, so the
scope of an IPv6 address does not survive. -/

namespace ScyllaDriver

namespace AddressTranslation

inductive IpAddr where
  | v4 (bits : BitVec 32)
  | v6 (bits : BitVec 128)
  deriving DecidableEq, Repr

inductive SocketAddr where
  | v4 (ip : BitVec 32) (port : BitVec 16)
  | v6 (ip : BitVec 128) (port : BitVec 16) (flowinfo scopeId : BitVec 32)
  deriving DecidableEq, Repr

def SocketAddr.new : IpAddr → BitVec 16 → SocketAddr
  | .v4 ip, port => .v4 ip port
  | .v6 ip, port => .v6 ip port 0 0

def SocketAddr.ip : SocketAddr → IpAddr
  | .v4 ip _ => .v4 ip
  | .v6 ip _ _ _ => .v6 ip

def SocketAddr.port : SocketAddr → BitVec 16
  | .v4 _ port => port
  | .v6 _ port _ _ => port

/-- What is left of an address that is passed on as ip and port. -/
def SocketAddr.plain (addr : SocketAddr) : SocketAddr := .new addr.ip addr.port

/-- What `std::net` makes of text, and Python of an ip. -/
structure Net where
  parseSocketAddr : String → Option SocketAddr
  parseIpAddr : String → Option IpAddr
  strIp : IpAddr → String

/-- A Python object in an address, by what the extractions get from it in this run. -/
structure PyAtom where
  typeName : String
  /-- `extract::<&str>` -/
  text : Option String
  /-- What `__index__` returns when it is called, and when it is called again. -/
  index : Option Int
  indexAgain : Option Int
  /-- The `packed` attribute if there is one; its bytes may be those of an ip. -/
  packed : Option (Option IpAddr)
  /-- `str()` -/
  shown : Option String
  deriving DecidableEq, Repr

inductive PyItem where
  | atom (value : PyAtom)
  | tuple (typeName : String) (items : List PyAtom)
  deriving DecidableEq, Repr

def PyItem.typeName : PyItem → String
  | .atom value => value.typeName
  | .tuple typeName _ => typeName

inductive ParsedAddress where
  | resolved (addr : SocketAddr)
  | unresolved (host : String)
  deriving DecidableEq, Repr

inductive AddressParseError where
  | invalidType (typeName : String)
  | invalidSocketAddr (addr : String)
  deriving DecidableEq, Repr

section Parsing

variable (net : Net)

/-- `extract::<IpAddr>`: an object without `packed` is read from its text. -/
def PyAtom.extractIp (obj : PyAtom) : Option IpAddr :=
  match obj.packed with
  | some ip => ip
  | none => obj.shown.bind net.parseIpAddr

/-- `extract::<u16>`, of what `__index__` returned. -/
def extractPort : Option Int → Option (BitVec 16)
  | some (.ofNat value) => if value < 65536 then some (.ofNat 16 value) else none
  | _ => none

def ParsedAddress.extract (obj : PyItem) : Except AddressParseError ParsedAddress :=
  match obj with
  | .atom value =>
    match value.text with
    | some text => .ok (.unresolved text)
    | none => .error (.invalidType obj.typeName)
  | .tuple _ [host, port] =>
    match host.text with
    | some text =>
      match extractPort port.index with
      | some port =>
        match net.parseIpAddr text with
        | some ip => .ok (.resolved (.new ip port))
        | none => .ok (.unresolved (text ++ ":" ++ toString port.toNat))
      | none =>
        -- `(IpAddr, u16)` is tried as well, with another call of `__index__`.
        match host.extractIp net, extractPort port.indexAgain with
        | some ip, some port => .ok (.resolved (.new ip port))
        | _, _ => .error (.invalidType obj.typeName)
    | none =>
      match host.extractIp net, extractPort port.index with
      | some ip, some port => .ok (.resolved (.new ip port))
      | _, _ => .error (.invalidType obj.typeName)
  | _ => .error (.invalidType obj.typeName)

/-- `SocketAddr::try_from` -/
def ParsedAddress.toSocketAddr : ParsedAddress → Except AddressParseError SocketAddr
  | .resolved addr => .ok addr
  | .unresolved text =>
    match net.parseSocketAddr text with
    | some addr => .ok addr
    | none => .error (.invalidSocketAddr text)

def socketAddr (obj : PyItem) : Except AddressParseError SocketAddr := do
  let parsed ← ParsedAddress.extract net obj
  parsed.toSocketAddr net

end Parsing

inductive TranslationError where
  | noRuleForAddress (addr : SocketAddr)
  deriving DecidableEq, Repr

inductive DriverAddressTranslationError where
  | translationError (source : TranslationError)
  | invalidAddressAtIndex (index : Nat) (source : AddressParseError)
  deriving DecidableEq, Repr

/-- An exception that a Python translator ends with. -/
inductive PyErr where
  | addressTranslation (error : DriverAddressTranslationError)
  | value (error : AddressParseError)
  | raised (text : String)
  deriving DecidableEq, Repr

structure UntranslatedPeer where
  hostId : Nat
  untranslatedAddress : SocketAddr
  datacenter : Option String
  rack : Option String
  deriving DecidableEq, Repr

structure PyUntranslatedPeer where
  hostId : Nat
  untranslatedAddress : IpAddr × BitVec 16
  datacenter : Option String
  rack : Option String
  deriving DecidableEq, Repr

def PyUntranslatedPeer.ofPeer (peer : UntranslatedPeer) : PyUntranslatedPeer :=
  ⟨peer.hostId, (peer.untranslatedAddress.ip, peer.untranslatedAddress.port), peer.datacenter,
    peer.rack⟩

/-- The rules in the order they were collected; of two for one address the later stays. -/
abbrev Rules := List (SocketAddr × SocketAddr)

def Rules.get (rules : Rules) (addr : SocketAddr) : Option SocketAddr := rules.reverse.lookup addr

section Translating

variable (net : Net)

namespace PyDictAddressTranslator

def entry (item : (PyItem × PyItem) × Nat) :
    Except DriverAddressTranslationError (SocketAddr × SocketAddr) := do
  let source ← (socketAddr net item.1.1).mapError (.invalidAddressAtIndex item.2)
  let target ← (socketAddr net item.1.2).mapError (.invalidAddressAtIndex item.2)
  return (source, target)

/-- `items` are what the iteration over the dict yields. -/
def new (items : List (PyItem × PyItem)) : Except DriverAddressTranslationError Rules :=
  items.zipIdx.mapM (entry net)

def translate (rules : Rules) (peer : PyUntranslatedPeer) :
    Except DriverAddressTranslationError (IpAddr × BitVec 16) :=
  let addr := SocketAddr.new peer.untranslatedAddress.1 peer.untranslatedAddress.2
  match rules.get addr with
  | some translated => .ok (translated.ip, translated.port)
  | none => .error (.translationError (.noRuleForAddress addr))

end PyDictAddressTranslator

/-- `CustomAddressTranslator::translate_address`; `translate` is the method of the object. -/
def CustomAddressTranslator.translateAddress (translate : PyUntranslatedPeer → Except PyErr PyItem)
    (peer : UntranslatedPeer) : Except PyErr SocketAddr := do
  let translated ← translate (.ofPeer peer)
  (socketAddr net translated).mapError .value

/-- An `ipaddress` object. -/
def PyAtom.ofIpAddr (ip : IpAddr) : PyAtom where
  typeName := match ip with
    | .v4 _ => "IPv4Address"
    | .v6 _ => "IPv6Address"
  text := none
  index := none
  indexAgain := none
  packed := some ip
  shown := net.strIp ip

def PyAtom.ofInt (value : Int) : PyAtom where
  typeName := "int"
  text := none
  index := value
  indexAgain := value
  packed := none
  shown := toString value

/-- A Python translator that asks the built-in one. -/
def asking (rules : Rules) (peer : PyUntranslatedPeer) : Except PyErr PyItem :=
  match PyDictAddressTranslator.translate rules peer with
  | .ok (ip, port) => .ok (.tuple "tuple" [.ofIpAddr net ip, .ofInt port.toNat])
  | .error error => .error (.addressTranslation error)

end Translating

variable {net : Net} {rules : Rules} {items : List (PyItem × PyItem)}

theorem extractPort_toNat (port : BitVec 16) : extractPort (some port.toNat) = some port := by
  have hport : extractPort (some port.toNat) =
      if port.toNat < 65536 then some (.ofNat 16 port.toNat) else none := rfl
  rw [hport, if_pos port.isLt, BitVec.ofNat_toNat, BitVec.setWidth_eq]

/-- The built-in translator's answer is read back as it was given. -/
theorem socketAddr_tuple (ip : IpAddr) (port : BitVec 16) :
    socketAddr net (.tuple "tuple" [.ofIpAddr net ip, .ofInt port.toNat]) =
      .ok (.new ip port) := by
  have hextract : ParsedAddress.extract net
      (.tuple "tuple" [.ofIpAddr net ip, .ofInt port.toNat]) = .ok (.resolved (.new ip port)) := by
    simp [ParsedAddress.extract, PyAtom.ofIpAddr, PyAtom.ofInt, PyAtom.extractIp,
      extractPort_toNat]
  rw [socketAddr, hextract]
  rfl

/-- A Python translator that asks the built-in one sees and passes on plain addresses. -/
theorem translateAddress_asking (rules : Rules) (peer : UntranslatedPeer) :
    (CustomAddressTranslator.translateAddress net (asking net rules) peer).toOption =
      (rules.get peer.untranslatedAddress.plain).map SocketAddr.plain := by
  have htranslate : PyDictAddressTranslator.translate rules (.ofPeer peer) =
      match rules.get peer.untranslatedAddress.plain with
      | some translated => .ok (translated.ip, translated.port)
      | none => .error (.translationError (.noRuleForAddress peer.untranslatedAddress.plain)) := rfl
  unfold CustomAddressTranslator.translateAddress asking
  rw [htranslate]
  cases rules.get peer.untranslatedAddress.plain with
  | none => rfl
  | some translated =>
    simp only [Bind.bind, Except.bind, socketAddr_tuple]
    rfl

/-- The rule for an address that a dict has last. -/
def rule (net : Net) (items : List (PyItem × PyItem)) (addr : SocketAddr) : Option SocketAddr :=
  (items.reverse.find? fun item => (socketAddr net item.1).toOption == some addr).bind
    fun item => (socketAddr net item.2).toOption

/-- Both addresses of an item can be used. -/
def Entry (net : Net) (item : PyItem × PyItem) (pair : SocketAddr × SocketAddr) : Prop :=
  socketAddr net item.1 = .ok pair.1 ∧ socketAddr net item.2 = .ok pair.2

theorem entry_of_ok {item : (PyItem × PyItem) × Nat} {pair : SocketAddr × SocketAddr}
    (h : PyDictAddressTranslator.entry net item = .ok pair) : Entry net item.1 pair := by
  unfold PyDictAddressTranslator.entry at h
  cases hsource : socketAddr net item.1.1 with
  | error err => rw [hsource] at h; cases h
  | ok source =>
    cases htarget : socketAddr net item.1.2 with
    | error err => rw [hsource, htarget] at h; cases h
    | ok target =>
      rw [hsource, htarget] at h
      cases h
      exact ⟨hsource, htarget⟩

theorem entry_of_error {item : (PyItem × PyItem) × Nat} {e : DriverAddressTranslationError}
    (h : PyDictAddressTranslator.entry net item = .error e) :
    ∃ source, e = .invalidAddressAtIndex item.2 source ∧
      (socketAddr net item.1.1 = .error source ∨
        (∃ addr, socketAddr net item.1.1 = .ok addr) ∧ socketAddr net item.1.2 = .error source) := by
  unfold PyDictAddressTranslator.entry at h
  cases hsource : socketAddr net item.1.1 with
  | error err =>
    rw [hsource] at h
    cases h
    exact ⟨err, rfl, .inl rfl⟩
  | ok source =>
    cases htarget : socketAddr net item.1.2 with
    | error err =>
      rw [hsource, htarget] at h
      cases h
      exact ⟨err, rfl, .inr ⟨⟨source, rfl⟩, rfl⟩⟩
    | ok target => rw [hsource, htarget] at h; cases h

theorem lookup_eq_rule {pairs : Rules} (h : List.Forall₂ (Entry net) items pairs)
    (addr : SocketAddr) :
    pairs.lookup addr =
      (items.find? fun item => (socketAddr net item.1).toOption == some addr).bind
        fun item => (socketAddr net item.2).toOption := by
  induction h with
  | nil => rfl
  | @cons item pair items pairs hentry _ ih =>
    obtain ⟨hsource, htarget⟩ := hentry
    rw [List.lookup_cons, List.find?_cons, hsource]
    by_cases heq : pair.1 = addr
    · simp [heq, htarget, Except.toOption]
    · have hlookup : (addr == pair.1) = false := beq_false_of_ne (Ne.symm heq)
      have hfind : ((Except.ok pair.1 : Except AddressParseError SocketAddr).toOption ==
          some addr) = false := by simpa [Except.toOption] using heq
      simpa only [hlookup, hfind] using ih

theorem get_new (h : PyDictAddressTranslator.new net items = .ok rules) (addr : SocketAddr) :
    rules.get addr = rule net items addr := by
  have hentries : List.Forall₂ (fun item pair => Entry net item.1 pair) items.zipIdx rules :=
    (FirstFailures.mapM_eq_ok h).imp fun _ _ => entry_of_ok
  have hitems : List.Forall₂ (Entry net) items rules := by
    rw [← List.forall₂_map_left_iff (f := Prod.fst), List.zipIdx_map_fst] at hentries
    exact hentries
  exact lookup_eq_rule (List.forall₂_reverse_iff.mpr hitems) addr

theorem zipIdx_index {α : Type} {l : List α} {done rest : List (α × Nat)} {item : α × Nat}
    (h : l.zipIdx = done ++ item :: rest) : item.2 = done.length := by
  have hget : l.zipIdx[done.length]? = some item := by simp [h]
  rw [List.getElem?_zipIdx] at hget
  obtain ⟨a, -, rfl⟩ := Option.map_eq_some_iff.mp hget
  exact Nat.zero_add _

/-- A dict is refused for its first item with an address that is none. Else the map that the
Rust driver is given has the last rule for every address, and the translator that Python asks
follows the same rules, up to the scope of IPv6 addresses. -/
theorem dict_translator_wrapped (net : Net) (items : List (PyItem × PyItem)) :
    match PyDictAddressTranslator.new net items with
    | .error e => ∃ before item after source, items = before ++ item :: after ∧
        e = .invalidAddressAtIndex before.length source ∧
        (socketAddr net item.1 = .error source ∨
          (∃ addr, socketAddr net item.1 = .ok addr) ∧ socketAddr net item.2 = .error source) ∧
        ∀ earlier ∈ before, ∃ pair, Entry net earlier pair
    | .ok rules => (∀ addr, rules.get addr = rule net items addr) ∧
        ∀ peer, (CustomAddressTranslator.translateAddress net (asking net rules) peer).toOption =
          (rule net items peer.untranslatedAddress.plain).map SocketAddr.plain := by
  split
  · rename_i e h
    obtain ⟨done, item, rest, hitems, hitem, hdone⟩ := FirstFailures.mapM_eq_error h
    obtain ⟨source, rfl, hsource⟩ := entry_of_error hitem
    refine ⟨done.map Prod.fst, item.1, rest.map Prod.fst, source, ?_, ?_, hsource, ?_⟩
    · rw [← List.zipIdx_map_fst 0 items, hitems, List.map_append, List.map_cons]
    · rw [List.length_map, zipIdx_index hitems]
    · intro earlier hearlier
      obtain ⟨item', hitem', rfl⟩ := List.mem_map.mp hearlier
      obtain ⟨pair, hpair⟩ := hdone item' hitem'
      exact ⟨pair, entry_of_ok hpair⟩
  · rename_i rules h
    refine ⟨get_new h, fun peer => ?_⟩
    rw [translateAddress_asking, get_new h]

end AddressTranslation

end ScyllaDriver
