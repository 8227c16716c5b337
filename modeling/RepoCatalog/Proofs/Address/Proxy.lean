import RepoCatalog.Proofs.Address.Root
import RepoCatalog.Proofs.Pipeline.Stages
import RepoCatalog.Rehearsal

/-!
# Proxies

A proxy address that can be read is brought into a normal form, which has a scheme and a host and is
kept by a second attempt, or it is refused. An address whose host cannot be read ends a connection
with a failure that is not reported. In neither case is there a client without its proxy.
-/

namespace RepoCatalog

open Effect

/-- The scheme of a proxy. -/
def proxyScheme : List Char := ['h', 't', 't', 'p']

/-- A proxy address as it is read: without the blanks around it, and with a scheme. -/
def proxyChars (proxy : String) : List Char :=
  withScheme proxyScheme (Text.strip proxy.toList)

/-- The host of an address, as far as there is one. -/
def hostIn (address : List Char) : List Char :=
  hostOf (splitScheme (tidyAddress address)).2

/-- A proxy address that can be read. -/
def IsReadableProxy (proxy : String) : Prop :=
  ∃ parts, parseAddress (proxyChars proxy) = .ok parts

/-- What a host with brackets names: what is between them, if nothing but a port follows; all that
follows an opening one, if the other is in the user name; without one, what is in front of a port. -/
inductive Names (host : List Char) : List Char → Prop
  | enclosed {name rest : List Char} (apart : withoutUser host = '[' :: name ++ ']' :: rest)
      (first : ']' ∉ name) (port : rest = [] ∨ rest.head? = some ':') : Names host name
  | opened {name : List Char} (apart : withoutUser host = '[' :: name) (unclosed : ']' ∉ name) :
      Names host name
  | bare (plain : '[' ∉ withoutUser host) :
      Names host ((withoutUser host).takeWhile (· != ':'))

/-- Something besides a port stands around the brackets of a host. -/
inductive Surrounded (host : List Char) : Prop
  | before {front inside : List Char} (apart : withoutUser host = front ++ '[' :: inside)
      (some : front ≠ []) (first : '[' ∉ front)
  | after {name rest : List Char} {c : Char}
      (apart : withoutUser host = '[' :: name ++ ']' :: c :: rest) (first : ']' ∉ name)
      (noPort : c ≠ ':')

/-- Why a host cannot be read: it has one kind of brackets only, or something around them; or they
hold a version that is not known, an address of four octets or no numeric address at all; or it has
a character that stands for a separator. -/
inductive HostFault (host : List Char) : Failure → Prop
  | unmatched (one : ¬ ('[' ∈ host ↔ ']' ∈ host)) : HostFault host .unbalancedBrackets
  | surrounded (opens : '[' ∈ host) (closes : ']' ∈ host) (around : Surrounded host) :
      HostFault host .unbalancedBrackets
  | future (opens : '[' ∈ host) (closes : ']' ∈ host) {name : List Char} (named : Names host name)
      (versioned : name.head? = some 'v') (unknown : HostLiteral.isFuture name = false) :
      HostFault host .badFutureHost
  | octets (opens : '[' ∈ host) (closes : ']' ∈ host) {name : List Char} (named : Names host name)
      (octets : HostLiteral.kind? name = some .octets) : HostFault host .bracketedOctets
  | literal (opens : '[' ∈ host) (closes : ']' ∈ host) {name : List Char} (named : Names host name)
      (unversioned : name.head? ≠ some 'v') (unknown : HostLiteral.kind? name = none) :
      HostFault host (.notAHostLiteral (String.ofList name))
  | deceptive (deceives : isDeceptive host = true) :
      HostFault host (.deceptiveHost (String.ofList host))

theorem HostFault.unreported {host : List Char} {failure : Failure}
    (fault : HostFault host failure) : failure.isReported = false := by
  cases fault <;> rfl

/-! ## Reading an address -/

/-- A text divided at the first of a character, if it has one. -/
theorem span_at (mark : Char) (text : List Char) :
    (mark ∉ text ∧ text.span (· != mark) = (text, [])) ∨
      ∃ before after, text = before ++ mark :: after ∧ mark ∉ before ∧
        text.span (· != mark) = (before, mark :: after) := by
  rw [List.span_eq_takeWhile_dropWhile]
  induction text with
  | nil => exact .inl ⟨List.not_mem_nil, rfl⟩
  | cons c rest induction =>
      by_cases here : c = mark
      · subst here
        exact .inr ⟨[], rest, rfl, List.not_mem_nil, by simp⟩
      · have differs : (c != mark) = true := bne_iff_ne.mpr here
        rcases induction with ⟨absent, divided⟩ | ⟨before, after, whole, absent, divided⟩
        · refine .inl ⟨List.not_mem_cons_of_ne_of_not_mem (Ne.symm here) absent, ?_⟩
          simpa [differs] using divided
        · refine .inr ⟨c :: before, after, by rw [whole]; rfl,
            List.not_mem_cons_of_ne_of_not_mem (Ne.symm here) absent, ?_⟩
          simpa [differs] using divided

/-- Brackets have a name, or something stands around them. -/
theorem bracketedName_cases (host : List Char) :
    (∃ name, bracketedName host = .ok name ∧ Names host name) ∨
      bracketedName host = .error .unbalancedBrackets ∧ Surrounded host := by
  unfold bracketedName
  rcases span_at '[' (withoutUser host) with ⟨plain, divided⟩ | ⟨front, inside, apart, first, divided⟩
  · rw [divided]
    refine .inl ⟨_, ?_, .bare plain⟩
    cases withoutUser host <;> rfl
  · rw [divided]
    cases front with
    | cons c front => exact .inr ⟨rfl, .before apart (List.cons_ne_nil _ _) first⟩
    | nil =>
        dsimp only
        rcases span_at ']' inside with ⟨unclosed, closed⟩ | ⟨name, rest, whole, first, closed⟩
        · rw [closed]
          exact .inl ⟨inside, rfl, .opened apart unclosed⟩
        · rw [closed]
          subst whole
          cases rest with
          | nil => exact .inl ⟨name, rfl, .enclosed apart first (.inl rfl)⟩
          | cons c rest =>
              by_cases port : c = ':'
              · subst port
                exact .inl ⟨name, rfl, .enclosed apart first (.inr rfl)⟩
              · refine .inr ⟨?_, .after apart first port⟩
                simp only
                split
                · rename_i none
                  cases none
                · rename_i single
                  cases single
                · rename_i ported
                  cases ported
                  exact absurd rfl port
                · rfl

theorem hostFault_of_checkBracketed {host name : List Char} {failure : Failure}
    (opens : '[' ∈ host) (closes : ']' ∈ host) (named : Names host name)
    (failed : checkBracketed name = .error failure) : HostFault host failure := by
  unfold checkBracketed at failed
  split at failed
  · rename_i versioned
    split at failed
    · cases failed
    · rename_i unknown
      cases failed
      exact .future opens closes named versioned (Bool.eq_false_iff.mpr unknown)
  · rename_i unversioned
    split at failed
    · cases failed
    · rename_i octets
      cases failed
      exact .octets opens closes named octets
    · rename_i unknown
      cases failed
      exact .literal opens closes named unversioned unknown

theorem hostFault_of_checkBrackets {host : List Char} {failure : Failure}
    (failed : checkBrackets host = .error failure) : HostFault host failure := by
  unfold checkBrackets at failed
  cases opens : host.contains '[' <;> cases closes : host.contains ']' <;>
    rw [opens, closes] at failed <;>
    simp only [List.contains_eq_mem, decide_eq_true_eq, decide_eq_false_iff_not] at opens closes
  · cases failed
  · cases failed
    exact .unmatched fun both => opens (both.mpr closes)
  · cases failed
    exact .unmatched fun both => closes (both.mp opens)
  · rcases bracketedName_cases host with ⟨name, found, named⟩ | ⟨lost, around⟩
    · rw [found] at failed
      exact hostFault_of_checkBracketed opens closes named failed
    · rw [lost] at failed
      cases failed
      exact .surrounded opens closes around

theorem parseAddress_eq (address : List Char) :
    parseAddress address =
      (checkBrackets (hostIn address)).bind fun _ =>
        if isDeceptive (hostIn address) then
          .error (.deceptiveHost (String.ofList (hostIn address)))
        else .ok ⟨(splitScheme (tidyAddress address)).1, hostIn address⟩ := by
  unfold parseAddress hostIn
  rcases splitScheme (tidyAddress address) with ⟨scheme, rest⟩
  dsimp only
  cases checkBrackets (hostOf rest) with
  | error failure => rfl
  | ok _ => cases deceives : isDeceptive (hostOf rest) <;> rfl

/-- An address that cannot be read has a fault in its host. -/
theorem hostFault_of_parseAddress {address : List Char} {failure : Failure}
    (failed : parseAddress address = .error failure) : HostFault (hostIn address) failure := by
  rw [parseAddress_eq] at failed
  cases checked : checkBrackets (hostIn address) with
  | error other =>
      rw [checked] at failed
      cases failed
      exact hostFault_of_checkBrackets checked
  | ok _ =>
      rw [checked] at failed
      simp only [Except.bind] at failed
      split at failed
      · rename_i deceives
        cases failed
        exact .deceptive deceives
      · cases failed

/-! ## The normal form -/

theorem schemed_withScheme (scheme address : List Char) :
    schemeMark <:+: withScheme scheme address := by
  unfold withScheme
  split
  · rename_i schemed
    exact (occurs_iff schemeMark address).mp schemed
  · exact ⟨scheme, address, rfl⟩

theorem isTrimmed_proxyChars (proxy : String) : Text.IsTrimmed (proxyChars proxy) := by
  have stripped := Text.isTrimmed_strip proxy.toList
  unfold proxyChars withScheme
  split
  · exact stripped
  · exact Text.IsTrimmed.append (by decide) stripped

/-- What is read of a proxy is read again as it is. -/
theorem proxyChars_proxyChars (proxy : String) :
    proxyChars (String.ofList (proxyChars proxy)) = proxyChars proxy := by
  rw [proxyChars, String.toList_ofList, Text.strip_of_isTrimmed (isTrimmed_proxyChars proxy)]
  exact withScheme_of_schemed (schemed_withScheme _ _) proxyScheme

theorem normalizeProxy_of_visible {proxy : String} {c : Char} (member : c ∈ proxy.toList)
    (visible : Text.isBlank c = false) :
    normalizeProxy proxy =
      match parseAddress (proxyChars proxy) with
      | .error failure => .error failure
      | .ok parts =>
        if parts.scheme.isEmpty || parts.host.isEmpty then .error (.invalidProxy proxy)
        else .ok (String.ofList (proxyChars proxy)) := by
  have some : (Text.strip proxy.toList).isEmpty = false :=
    List.isEmpty_eq_false_iff.mpr (Text.strip_ne_nil member visible)
  rw [normalizeProxy]
  simp only [some, Bool.false_eq_true, if_false]
  rfl

/-- What is read of a proxy is visible: it has a scheme. -/
theorem normalizeProxy_proxyChars (proxy : String) :
    normalizeProxy (String.ofList (proxyChars proxy)) =
      match parseAddress (proxyChars proxy) with
      | .error failure => .error failure
      | .ok parts =>
        if parts.scheme.isEmpty || parts.host.isEmpty then
          .error (.invalidProxy (String.ofList (proxyChars proxy)))
        else .ok (String.ofList (proxyChars proxy)) := by
  have colon : ':' ∈ (String.ofList (proxyChars proxy)).toList := by
    rw [String.toList_ofList]
    exact (schemed_withScheme _ _).subset List.mem_cons_self
  have plain := normalizeProxy_of_visible colon (by decide)
  rwa [proxyChars_proxyChars] at plain

/-- The normal form of a proxy. -/
structure IsProxyForm (normal : String) : Prop where
  /-- It is read as an address with a scheme and a host. -/
  parts : ∃ parts, parseAddress normal.toList = .ok parts ∧ parts.scheme ≠ [] ∧ parts.host ≠ []
  /-- It is its own normal form. -/
  kept : normalizeProxy normal = .ok normal

/-- A proxy that can be read is brought into normal form or refused. -/
theorem normalizeProxy_of_readable {proxy : String} {c : Char} (member : c ∈ proxy.toList)
    (visible : Text.isBlank c = false) (readable : IsReadableProxy proxy) :
    (∃ normal, normalizeProxy proxy = .ok normal ∧ IsProxyForm normal) ∨
      normalizeProxy proxy = .error (.invalidProxy proxy) := by
  obtain ⟨parts, parsed⟩ := readable
  have settled := normalizeProxy_of_visible member visible
  have again := normalizeProxy_proxyChars proxy
  rw [parsed] at settled again
  dsimp only at settled again
  cases lacking : parts.scheme.isEmpty || parts.host.isEmpty with
  | true =>
      rw [lacking] at settled
      exact .inr settled
  | false =>
      rw [lacking] at settled again
      rw [Bool.or_eq_false_iff] at lacking
      refine .inl ⟨_, settled, ⟨parts, ?_, ?_, ?_⟩, again⟩
      · rw [String.toList_ofList]
        exact parsed
      · exact List.isEmpty_eq_false_iff.mp lacking.1
      · exact List.isEmpty_eq_false_iff.mp lacking.2

/-- A proxy that cannot be read is not refused: its fault shows as it is. -/
theorem normalizeProxy_of_unreadable {proxy : String} {c : Char} (member : c ∈ proxy.toList)
    (visible : Text.isBlank c = false) (unreadable : ¬ IsReadableProxy proxy) :
    ∃ failure, normalizeProxy proxy = .error failure ∧
      HostFault (hostIn (proxyChars proxy)) failure := by
  have settled := normalizeProxy_of_visible member visible
  cases parsed : parseAddress (proxyChars proxy) with
  | ok parts => exact absurd ⟨parts, parsed⟩ unreadable
  | error failure =>
      rw [parsed] at settled
      exact ⟨failure, settled, hostFault_of_parseAddress parsed⟩

/-! ## Connections -/

namespace World

theorem clients_note_connected (settings : ClientSettings) (world : World) :
    (world.note (.connected settings)).clients = world.clients ++ [settings] := by
  rw [clients, events_note, List.filterMap_append, clients]
  rfl

theorem Climb.clients {stages : List Stage} {before after : World}
    (climbed : Climb stages before after) (unconstructed : .construct ∉ stages) :
    after.clients = before.clients := by
  refine climbed.filterMap_events (fun event settings found => ?_) unconstructed
  cases event with
  | connected other => rfl
  | _ => cases found

end World

namespace Connection

variable {connection : Connection} {address : String}

theorem proxy?_of_proxy {proxy : String} {c : Char} (member : c ∈ proxy.toList)
    (given : connection.proxy = some proxy) :
    connection.proxy? = (normalizeProxy proxy).map some := by
  have named : proxy ≠ "" := by
    rintro rfl
    cases member
  simp only [proxy?, given, if_neg named]

/-- Without a proxy that can be used a connection does nothing but record its beginning. -/
theorem run_connect_of_unproxied {failure : Failure}
    (addressed : connection.address = .value address)
    (unproxied : connection.proxy? = .error failure) (world : World) :
    connection.connect.run world =
      (.error failure,
        world.record .debug ("Connecting to GitLab: " ++ instanceRoot address)) := by
  have root : connection.root = .ok (instanceRoot address) := by
    simp only [Connection.root, addressed]
  rw [connect, root, run_bind, run_ofExcept]
  dsimp only
  rw [run_bind, run_log]
  dsimp only
  rw [unproxied, run_bind, run_ofExcept]

theorem world_construct (settings : ClientSettings) (world : World) :
    ((construct settings).run world).2 = world.note (.connected settings) := by
  rw [construct, run_bind, run_note]
  dsimp only
  rw [run_bind, run_get]
  dsimp only
  split <;> rfl

/-- Setting up a client with its proxy is all that adds a client. -/
theorem clients_setUp {proxy : Option String} (addressed : connection.address = .value address)
    (proxied : connection.proxy? = .ok proxy) (world : World) :
    (connection.setUp.run world).2.clients =
      world.clients ++ [connection.settings (instanceRoot address) proxy] := by
  have root : connection.root = .ok (instanceRoot address) := by
    simp only [Connection.root, addressed]
  have last (ready : World) : (((do
      reword Failure.isRemote .clientUnavailable
        (construct (connection.settings (instanceRoot address) proxy))
      return instanceRoot address) : Effect String).run ready).2.clients =
        ready.clients ++ [connection.settings (instanceRoot address) proxy] := by
    rw [world_bind fun _ _ => rfl, run_reword, world_construct, World.clients_note_connected]
  have recorded (level : Level) (message : String) (world : World) :
      (world.record level message).clients = world.clients :=
    (World.climb_record level message world).clients (by simp)
  rw [setUp, root, run_bind, run_ofExcept]
  dsimp only
  rw [run_bind, run_log]
  dsimp only
  rw [proxied, run_bind, run_ofExcept]
  dsimp only
  by_cases trusting : (!connection.verifies) = true
  · simp only [trusting, if_true]
    rw [run_bind, run_log]
    dsimp only
    rw [last, recorded, recorded]
  · simp only [trusting]
    exact (last _).trans (by rw [recorded])

/-- A connection has one client, with the proxy that was settled, or there is no such proxy. -/
theorem clients_connect {proxy : Option String} (addressed : connection.address = .value address)
    (proxied : connection.proxy? = .ok proxy) (world : World) :
    (connection.connect.run world).2.clients =
      world.clients ++ [connection.settings (instanceRoot address) proxy] := by
  have setUp := clients_setUp addressed proxied world
  rw [connect_eq, run_bind]
  rcases ran : connection.setUp.run world with ⟨failure | root, later⟩ <;> rw [ran] at setUp
  · exact setUp
  · exact ((connection.climbs_logIn root later).clients (by decide)).trans setUp

end Connection

/-- A visible proxy that can be read is brought into normal form or refused. A connection fails
before it has a client, or its one client has the normal form as both of its proxies. A proxy that cannot be
read is not refused: the fault of its host ends the connection, unreported. -/
theorem normalizeProxy_settles {proxy : String} {c : Char} (member : c ∈ proxy.toList)
    (visible : Text.isBlank c = false) :
    (IsReadableProxy proxy →
      (∃ normal, normalizeProxy proxy = .ok normal ∧ IsProxyForm normal) ∨
        normalizeProxy proxy = .error (.invalidProxy proxy)) ∧
    (¬ IsReadableProxy proxy →
      ∃ failure, normalizeProxy proxy = .error failure ∧ failure.isReported = false ∧
        HostFault (hostIn (proxyChars proxy)) failure) ∧
    ∀ (connection : Connection) (address : String) (world : World),
      connection.address = .value address → connection.proxy = some proxy →
      (∀ normal, normalizeProxy proxy = .ok normal →
        (connection.connect.run world).2.clients =
            world.clients ++ [connection.settings (instanceRoot address) (some normal)] ∧
          (connection.settings (instanceRoot address) (some normal)).proxies =
            some ⟨normal, normal⟩) ∧
      ∀ failure, normalizeProxy proxy = .error failure →
        (connection.connect.run world).1 = .error failure ∧
          (connection.connect.run world).2.clients = world.clients := by
  refine ⟨normalizeProxy_of_readable member visible, fun unreadable => ?_,
    fun connection address world addressed given => ⟨fun normal settled => ?_,
      fun failure settled => ?_⟩⟩
  · obtain ⟨failure, settled, fault⟩ := normalizeProxy_of_unreadable member visible unreadable
    exact ⟨failure, settled, fault.unreported, fault⟩
  · refine ⟨Connection.clients_connect addressed ?_ world, rfl⟩
    rw [Connection.proxy?_of_proxy member given, settled]
    rfl
  · have unproxied : connection.proxy? = .error failure := by
      rw [Connection.proxy?_of_proxy member given, settled]
      rfl
    rw [Connection.run_connect_of_unproxied addressed unproxied]
    exact ⟨rfl, (World.climb_record _ _ world).clients (by simp)⟩

/-- A proxy that is used, one that is refused, and one whose bracket is left open. -/
theorem normalizeProxy_settles_each :
    let connection (proxy : String) : Connection := ⟨.value "gitlab", "", none, some proxy, true⟩
    let connected (proxy : String) : Except Failure Unit × World :=
      (connection proxy).connect.run (Rehearsal.world [] [] [])
    (∃ normal, normalizeProxy " 127.0.0.1:8080" = .ok normal ∧ IsProxyForm normal) ∧
      (connected " 127.0.0.1:8080").2.clients =
        [⟨"https://gitlab", none, none, true,
          some ⟨"http://127.0.0.1:8080", "http://127.0.0.1:8080"⟩⟩] ∧
    (connected "http://").1 = .error (.invalidProxy "http://") ∧
      (connected "http://").2.clients = [] ∧
    (∃ failure, normalizeProxy "http://[::1" = .error failure ∧ failure.isReported = false ∧
        HostFault ['[', ':', ':', '1'] failure) ∧
      (connected "http://[::1").1 = .error .unbalancedBrackets ∧
      (connected "http://[::1").2.clients = [] := by
  intro connection connected
  have used := @normalizeProxy_settles " 127.0.0.1:8080" '1' (by decide) (by decide)
  have refused := @normalizeProxy_settles "http://" 'h' (by decide) (by decide)
  have opened := @normalizeProxy_settles "http://[::1" 'h' (by decide) (by decide)
  have unreadable : ¬ IsReadableProxy "http://[::1" := by
    rintro ⟨parts, parsed⟩
    have failed : parseAddress (proxyChars "http://[::1") = .error .unbalancedBrackets := by
      decide +kernel
    rw [failed] at parsed
    cases parsed
  refine ⟨?_, ?_, ?_, ?_, ?_, ?_, ?_⟩
  · have readable : IsReadableProxy " 127.0.0.1:8080" :=
      ⟨⟨['h', 't', 't', 'p'], "127.0.0.1:8080".toList⟩, by decide +kernel⟩
    refine (used.1 readable).resolve_right fun failed => ?_
    have settled : normalizeProxy " 127.0.0.1:8080" = .ok "http://127.0.0.1:8080" := by
      decide +kernel
    rw [settled] at failed
    cases failed
  · exact ((used.2.2 (connection " 127.0.0.1:8080") "gitlab" _ rfl rfl).1 _ (by decide +kernel)).1
  · exact ((refused.2.2 (connection "http://") "gitlab" _ rfl rfl).2 _ (by decide +kernel)).1
  · exact ((refused.2.2 (connection "http://") "gitlab" _ rfl rfl).2
      (.invalidProxy "http://") (by decide +kernel)).2
  · exact opened.2.1 unreadable
  · exact ((opened.2.2 (connection "http://[::1") "gitlab" _ rfl rfl).2 _ (by decide +kernel)).1
  · exact ((opened.2.2 (connection "http://[::1") "gitlab" _ rfl rfl).2
      .unbalancedBrackets (by decide +kernel)).2

end RepoCatalog
