import ActorServices.LinkCreate

set_option autoImplicit false

namespace ActorServices

section Labels

theorem intercalate_append {α : Type} (separator : α) {front back : List (List α)}
    (first : front ≠ []) (second : back ≠ []) :
    [separator].intercalate (front ++ back) =
      [separator].intercalate front ++ separator :: [separator].intercalate back := by
  induction front with
  | nil => exact absurd rfl first
  | cons part parts ih =>
      rw [List.cons_append]
      cases parts with
      | nil =>
          rw [List.nil_append, List.intercalate_cons_of_ne_nil second, List.intercalate_singleton]
          simp
      | cons next parts =>
          rw [List.intercalate_cons_of_ne_nil (by simp), List.intercalate_cons_cons,
            ih (List.cons_ne_nil _ _)]
          simp

variable {α : Type} [DecidableEq α] {separator : α} {short long : List α}

/-- The parts of a text are the last parts of another, when the texts are equal or the other
ends with a separator and this one. -/
theorem splitOn_suffix : short.splitOn separator <:+ long.splitOn separator ↔
    long = short ∨ separator :: short <:+ long := by
  constructor
  · intro suffix
    obtain ⟨front, same⟩ := suffix
    have whole : [separator].intercalate (front ++ short.splitOn separator) = long := by
      rw [same, List.intercalate_splitOn]
    by_cases none : front = []
    · left
      rw [none, List.nil_append, List.intercalate_splitOn] at whole
      exact whole.symm
    · right
      rw [intercalate_append separator none (List.splitOn_ne_nil separator short),
        List.intercalate_splitOn] at whole
      exact ⟨_, whole⟩
  · intro ends
    cases ends with
    | inl same => exact same ▸ List.suffix_refl _
    | inr behind =>
        obtain ⟨front, same⟩ := behind
        rw [← same, List.splitOn_append_cons_self]
        exact List.suffix_append _ _

end Labels

namespace UrlShortener

def dnsLabels (name : String) : List (List Char) := name.toList.splitOn '.'

/-- The host ends with the dot of the DNS root. -/
def RootDotted (host : String) : Prop := host.toList.getLast? = some '.'

instance (host : String) : Decidable (RootDotted host) :=
  inferInstanceAs (Decidable (host.toList.getLast? = some '.'))

def withoutRootDot (host : String) : String :=
  if RootDotted host then .ofList host.toList.dropLast else host

/-- The last labels of the host are those of some entry, a root dot aside. -/
def OnDenylist (blockedHosts : List String) (host : String) : Prop :=
  ∃ blocked ∈ blockedHosts, dnsLabels blocked <:+ dnsLabels (withoutRootDot host)

/-- An entry of the denylist: in lower case, and not empty, with no dot at either end. -/
structure DomainName (name : String) : Prop where
  nonempty : name ≠ ""
  lower : name.toLower = name
  head : name.toList.head? ≠ some '.'
  last : name.toList.getLast? ≠ some '.'

section Blocked

variable {settings : Settings} {target : TargetUrl} {host : String}

theorem hostMatches (host blocked : String) :
    (host == blocked || host.endsWith ("." ++ blocked)) = true ↔
      dnsLabels blocked <:+ dnsLabels host := by
  have dotted : ("." ++ blocked).toList = '.' :: blocked.toList := by
    rw [String.toList_append]
    rfl
  have ends : host.endsWith ("." ++ blocked) = true ↔ ("." ++ blocked).toList <:+ host.toList := by
    rw [← String.endsWith_toSlice, String.Slice.endsWith_string_iff, String.copy_toSlice]
  rw [Bool.or_eq_true, beq_iff_eq, ends, dotted, dnsLabels, dnsLabels, splitOn_suffix,
    String.toList_inj]

theorem isBlocked_iff (found : target.host settings.urls = some host) :
    settings.isBlocked target = true ↔
      ∃ blocked ∈ settings.blockedHosts, dnsLabels blocked <:+ dnsLabels host := by
  by_cases none : settings.blockedHosts.isEmpty = true
  · have empty : settings.blockedHosts = [] := List.isEmpty_iff.mp none
    simp [Settings.isBlocked, empty]
  · simp only [Settings.isBlocked, none, found, Bool.false_eq_true, ↓reduceIte, List.any_eq_true,
      hostMatches]

/-- A host with a root dot has no entry's labels last. -/
theorem rootDotted_unmatched {blocked : String} (name : DomainName blocked)
    (dotted : RootDotted host) : ¬ dnsLabels blocked <:+ dnsLabels host := by
  intro matched
  have nonempty : blocked.toList ≠ [] := by
    intro empty
    exact name.nonempty (String.toList_eq_nil_iff.mp empty)
  have tail : blocked.toList <:+ host.toList := by
    cases splitOn_suffix.mp matched with
    | inl same => exact same ▸ List.suffix_refl _
    | inr behind => exact (List.suffix_cons '.' blocked.toList).trans behind
  apply name.last
  have last : blocked.toList.getLast nonempty = '.' := by
    rw [tail.getLast nonempty]
    exact List.getLast_of_getLast?_eq_some dotted
  rw [List.getLast?_eq_some_getLast nonempty, last]

end Blocked

section Create

variable {σ : Type} (handle : σ → (op : Op ShortCode Link) → op.Reply × σ)

def Refused (err : ServiceError) (result : Except ServiceError Link) : Prop := result = .error err

/-- The denylist is all that makes `create` return `Blocked`. -/
theorem create_blocked_iff {settings : Settings} {url : String} {target : TargetUrl}
    (accepted : TargetUrl.parse settings.urls url = .ok target) (requested : Option String)
    (ttlSeconds : Option Nat) (state : σ) :
    Refused .blocked (Proc.run handle (create settings url requested ttlSeconds) state).1 ↔
      settings.isBlocked target = true := by
  cases blocked : settings.isBlocked target with
  | true => exact ⟨fun _ => rfl, fun _ => create_blocked handle accepted blocked _ _ _⟩
  | false =>
      have returned := create_returned handle accepted blocked requested ttlSeconds state
      constructor
      · intro refused
        rw [refused] at returned
        cases returned with
        | failed _ passed => exact absurd rfl passed
      · nofun

/-- `create` refuses a URL with a domain host for its labels, exactly when these do not stand
behind a root dot. -/
theorem create_denylist_iff {settings : Settings} {url host : String} {target : TargetUrl}
    {parsed : Url} (accepted : TargetUrl.parse settings.urls url = .ok target)
    (read : settings.urls url = some parsed) (hosted : parsed.hostStr = some host)
    (lower : host.toLower = host) (names : ∀ blocked ∈ settings.blockedHosts, DomainName blocked)
    (requested : Option String) (ttlSeconds : Option Nat) (state : σ) :
    (Refused .blocked (Proc.run handle (create settings url requested ttlSeconds) state).1 ↔
        OnDenylist settings.blockedHosts host) ↔
      ¬ (RootDotted host ∧ OnDenylist settings.blockedHosts host) := by
  have same : target = ⟨url⟩ := parse_target accepted
  have found : target.host settings.urls = some host := by
    rw [same, TargetUrl.host, read, Option.bind_some, hosted, Option.map_some, lower]
  rw [create_blocked_iff handle accepted, isBlocked_iff found]
  by_cases dotted : RootDotted host
  · have unmatched : ¬ ∃ blocked ∈ settings.blockedHosts, dnsLabels blocked <:+ dnsLabels host := by
      intro matched
      obtain ⟨blocked, among, suffix⟩ := matched
      exact rootDotted_unmatched (names blocked among) dotted suffix
    simp only [unmatched, dotted, true_and, false_iff]
  · have plain : withoutRootDot host = host := if_neg dotted
    simp only [OnDenylist, plain, dotted, false_and, not_false_eq_true]

end Create

def acceptAll (state : Unit) : (op : Op ShortCode Link) → op.Reply × Unit
  | .cacheGet _ => (none, state)
  | .cacheSet _ _ _ => ((), state)
  | .cacheDelete _ => ((), state)
  | .repoInsert _ => (.ok (), state)
  | .repoGet _ => (.ok none, state)
  | .repoTake _ => (.ok none, state)
  | .repoDelete _ => (.ok false, state)
  | .record _ => ((), state)
  | .nowUnix => (0, state)
  | .random => (fun _ => 0, state)

def denySettings : Settings where
  urls raw :=
    if raw = "https://sub.evil.com/x" then some ⟨"https", true, some "sub.evil.com"⟩
    else if raw = "https://evil.com./x" then some ⟨"https", true, some "evil.com."⟩
    else none
  blockedHosts := ["evil.com"]

theorem denySettings_names : ∀ blocked ∈ denySettings.blockedHosts, DomainName blocked := by
  intro blocked among
  have same : blocked = "evil.com" := List.mem_singleton.mp among
  subst same
  exact ⟨by decide, by decide +kernel, by decide, by decide⟩

theorem create_denylist_subdomain :
    (Refused .blocked
        (Proc.run acceptAll (create denySettings "https://sub.evil.com/x" none none) ()).1 ↔
      OnDenylist denySettings.blockedHosts "sub.evil.com") ↔
      ¬ (RootDotted "sub.evil.com" ∧ OnDenylist denySettings.blockedHosts "sub.evil.com") := by
  have accepted : TargetUrl.parse denySettings.urls "https://sub.evil.com/x" =
      .ok ⟨"https://sub.evil.com/x"⟩ := by decide
  have read : denySettings.urls "https://sub.evil.com/x" =
      some ⟨"https", true, some "sub.evil.com"⟩ := by decide
  exact create_denylist_iff acceptAll accepted read rfl (by decide +kernel) denySettings_names none
    none ()

/-- A root dot gets a blocked host past the denylist. -/
theorem create_rootDot_slips :
    (Proc.run acceptAll (create denySettings "https://evil.com./x" none none) ()).1 =
        .ok ⟨⟨"AAAAAAA"⟩, ⟨"https://evil.com./x"⟩, 0, 0, none⟩ ∧
      ¬ (Refused .blocked
          (Proc.run acceptAll (create denySettings "https://evil.com./x" none none) ()).1 ↔
        OnDenylist denySettings.blockedHosts "evil.com.") := by
  have created : (Proc.run acceptAll (create denySettings "https://evil.com./x" none none) ()).1 =
      .ok ⟨⟨"AAAAAAA"⟩, ⟨"https://evil.com./x"⟩, 0, 0, none⟩ := by decide +kernel
  have listed : OnDenylist denySettings.blockedHosts "evil.com." := by
    refine ⟨"evil.com", List.mem_singleton_self _, ?_⟩
    decide
  refine ⟨created, ?_⟩
  intro refused
  have blocked := refused.mpr listed
  rw [Refused, created] at blocked
  cases blocked

end UrlShortener

end ActorServices
