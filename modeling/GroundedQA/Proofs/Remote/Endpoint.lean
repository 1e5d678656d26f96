import GroundedQA.Remote.Service
import Mathlib.Data.List.DropRight
import Mathlib.Data.List.TakeWhile
/-!
# The addresses of a service

The address of a service is the root of addresses with its slashes at the end taken off and a path put after it. On
the web what follows a root changes nothing before its path (`Address.parse?_append`), so a root that takes requests
has services that do (`Connection.Valid.exists_make`).
-/

namespace GroundedQA.Remote

namespace Address

variable {scheme : String} {isLast : Bool} {text xs ys : List Char}

/-- What may follow a root: nothing, or a path that begins with a slash. -/
structure IsTail (cs : List Char) : Prop where
  head : ∀ c ∈ cs.head?, c = '/'
  plain : ∀ c ∈ cs, 0x20 < c.toNat ∧ c ≠ '#' ∧ c ≠ '?'

theorem IsTail.eq_nil_or (h : IsTail xs) : xs = [] ∨ ∃ rest, xs = '/' :: rest := by
  cases xs with
  | nil => exact .inl rfl
  | cons c rest => exact .inr ⟨rest, by rw [h.head c rfl]⟩

theorem IsTail.of_slashes (h : ∀ c ∈ xs, c = '/') : IsTail xs where
  head c hc := h c (List.mem_of_mem_head? hc)
  plain c hc := by rw [h c hc]; decide

/-! ## Readers that stop at a slash -/

theorem takeWhile_append_tail {p : Char → Bool} (hp : p '/' = false) (h : IsTail xs) (text : List Char) :
    (text ++ xs).takeWhile p = text.takeWhile p := by
  have hxs : xs.takeWhile p = [] := by
    obtain rfl | ⟨rest, rfl⟩ := h.eq_nil_or
    · rfl
    · rw [List.takeWhile_cons_of_neg (by simp [hp])]
  rw [List.takeWhile_append, hxs, List.append_nil]
  split
  next hlength => exact ((List.takeWhile_prefix p).eq_of_length hlength).symm
  · rfl

theorem drop_takeWhile_append (p : Char → Bool) (text xs : List Char) :
    (text ++ xs).drop (text.takeWhile p).length = text.drop (text.takeWhile p).length ++ xs :=
  List.drop_append_of_le_length (List.takeWhile_prefix p).length_le

/-! ## Schemes and signs -/

theorem scheme?_tail (h : IsTail xs) : scheme? xs = none := by
  obtain rfl | ⟨rest, rfl⟩ := h.eq_nil_or <;> rfl

/-- A scheme and its colon end before the tail. -/
theorem scheme?_append (hxs : IsTail xs) (hys : IsTail ys) {rest : List Char}
    (h : scheme? (text ++ xs) = some (scheme, rest)) :
    ∃ after, rest = after ++ xs ∧ scheme? (text ++ ys) = some (scheme, after ++ ys) := by
  unfold scheme? at h ⊢
  dsimp only at h ⊢
  rw [takeWhile_append_tail (by decide) hxs, drop_takeWhile_append] at h
  rw [takeWhile_append_tail (by decide) hys, drop_takeWhile_append]
  generalize text.takeWhile _ = name at h ⊢
  cases name with
  | nil => cases h
  | cons first others =>
    generalize text.drop _ = after at h ⊢
    cases after with
    | nil =>
      -- The colon would have to be the first character of the tail.
      obtain rfl | ⟨rest, rfl⟩ := hxs.eq_nil_or <;> simp at h
    | cons c after =>
      rw [List.cons_append] at h ⊢
      by_cases hc : c = ':'
      · subst hc
        simp only [] at h ⊢
        split at h
        next hfirst =>
          cases h
          exact ⟨after, rfl, if_pos hfirst⟩
        · cases h
      · simp [hc] at h

/-! ## Hosts on the web -/

/-- What stands before the query and the fragment. -/
def beforeSigns (text : List Char) : List Char := (splitAtSign '?' (splitAtSign '#' text).1).1

/-- The text of a host with its number and who asks it, which stands between slashes. -/
def betweenSlashes (text : List Char) : List Char :=
  (text.dropWhile SchemeKind.web.isSlash).takeWhile (!SchemeKind.web.isSlash ·)

theorem splitAtSign_fst (sign : Char) (text : List Char) : (splitAtSign sign text).1 = text.takeWhile (· ≠ sign) := by
  unfold splitAtSign
  dsimp only
  split <;> rfl

theorem beforeSigns_eq (text : List Char) : beforeSigns text = text.takeWhile fun c => c ≠ '?' ∧ c ≠ '#' := by
  rw [beforeSigns, splitAtSign_fst, splitAtSign_fst, List.takeWhile_takeWhile]
  simp only [decide_eq_true_eq]

/-- Signs keep a tail out of what stands before them. -/
theorem beforeSigns_append (text : List Char) :
    (∀ xs, IsTail xs → beforeSigns (text ++ xs) = text ++ xs) ∨
      ∀ xs, IsTail xs → beforeSigns (text ++ xs) = beforeSigns text := by
  simp only [beforeSigns_eq, List.takeWhile_append]
  by_cases hall : (text.takeWhile fun c => decide (c ≠ '?' ∧ c ≠ '#')).length = text.length
  · refine .inl fun xs hxs => ?_
    rw [if_pos hall, List.takeWhile_eq_self_iff.2 fun c hc => decide_eq_true (hxs.plain c hc).2.symm]
  · exact .inr fun xs _ => if_neg hall

theorem betweenSlashes_append (hys : IsTail ys) (h : betweenSlashes text ≠ []) :
    betweenSlashes (text ++ ys) = betweenSlashes text := by
  unfold betweenSlashes at h ⊢
  rw [List.dropWhile_append, if_neg]
  · exact takeWhile_append_tail rfl hys _
  · intro hempty
    rw [List.isEmpty_iff.1 hempty] at h
    exact h rfl

theorem betweenSlashes_append_slashes (hxs : ∀ c ∈ xs, c = '/') (text : List Char) :
    betweenSlashes (text ++ xs) = betweenSlashes text := by
  have hslashes : xs.dropWhile SchemeKind.web.isSlash = [] :=
    List.dropWhile_eq_nil_iff.2 fun c hc => by rw [hxs c hc]; rfl
  unfold betweenSlashes
  rw [List.dropWhile_append]
  split
  next hempty => rw [hslashes, List.isEmpty_iff.1 hempty]
  · exact takeWhile_append_tail rfl (.of_slashes hxs) _

theorem authority?_nil (hscheme : SchemeKind.of scheme = .web) : authority? scheme [] = none := by
  unfold authority?
  simp [hscheme, hostText]

theorem authority?_at (hscheme : SchemeKind.of scheme = .web) : authority? scheme ['@'] = none := by
  unfold authority?
  simp [hscheme, hostText]

/-- An address of the web has the authority that stands between its slashes. -/
theorem exists_ofText?_iff (hscheme : SchemeKind.of scheme = .web) {authority : Option Authority} :
    (∃ path, ofText? scheme isLast text = some (authority, path)) ↔
      ∃ a before, authority? scheme (betweenSlashes text) = some (a, before) ∧ authority = some a := by
  unfold ofText? ofHostText?
  rw [hscheme]
  dsimp only
  rw [← betweenSlashes]
  by_cases hat : betweenSlashes text = ['@']
  · rw [hat, authority?_at hscheme]
    simp
  · rw [if_neg fun h => hat h.1]
    constructor
    · rintro ⟨path, h⟩
      obtain ⟨⟨a, before⟩, ha, h⟩ := Option.bind_eq_some_iff.1 h
      cases h
      exact ⟨a, before, ha, rfl⟩
    · rintro ⟨a, before, ha, rfl⟩
      rw [ha]
      exact ⟨_, rfl⟩

/-! ## Addresses -/

theorem exists_parse?_iff (hscheme : SchemeKind.of scheme = .web) {s : String} {authority : Option Authority} :
    (∃ address, parse? s = some address ∧ address.scheme = scheme ∧ address.authority = authority) ↔
      ∃ rest a before, scheme? (cleaned s.toList) = some (scheme, rest) ∧
        authority? scheme (betweenSlashes (beforeSigns rest)) = some (a, before) ∧ authority = some a := by
  unfold parse?
  constructor
  · rintro ⟨address, h, rfl, rfl⟩
    obtain ⟨⟨scheme, rest⟩, hrest, h⟩ := Option.bind_eq_some_iff.1 h
    obtain ⟨⟨authority, path⟩, hpath, h⟩ := Option.bind_eq_some_iff.1 h
    cases h
    obtain ⟨a, before, ha⟩ := (exists_ofText?_iff hscheme).1 ⟨path, hpath⟩
    exact ⟨rest, a, before, hrest, ha⟩
  · rintro ⟨rest, a, before, hrest, ha⟩
    have hpath (isLast : Bool) : ∃ path, ofText? scheme isLast (beforeSigns rest) = some (authority, path) :=
      (exists_ofText?_iff hscheme).2 ⟨a, before, ha⟩
    obtain ⟨path, hpath⟩ := hpath _
    exact ⟨_, Option.bind_eq_some_iff.2 ⟨(scheme, rest), hrest, Option.bind_eq_some_iff.2 ⟨(authority, path), hpath, rfl⟩⟩,
      rfl, rfl⟩

/-! ## Roots -/

/-- A character that is taken off at either end of an address. -/
def isBlankOrControl (c : Char) : Bool := c.toNat ≤ 0x20

/-- A character that is left out wherever it stands. -/
def isLeftOut (c : Char) : Bool := c = '\t' || c = '\n' || c = '\r'

theorem cleaned_eq_filter (h : ∀ c ∈ text.getLast?, 0x20 < c.toNat) :
    cleaned text = (text.dropWhile isBlankOrControl).filter (!isLeftOut ·) := by
  have hlast : (text.dropWhile isBlankOrControl).rdropWhile isBlankOrControl = text.dropWhile isBlankOrControl := by
    rw [List.rdropWhile_eq_self_iff]
    intro hne
    have hmem : (text.dropWhile isBlankOrControl).getLast hne ∈ text.getLast? := by
      rw [(List.dropWhile_suffix isBlankOrControl).getLast hne]
      exact List.getLast_mem_getLast? _
    simpa [isBlankOrControl] using h _ hmem
  have hkept : (fun c : Char => decide (c ≠ '\t') && decide (c ≠ '\n') && decide (c ≠ '\r')) = (!isLeftOut ·) := by
    funext c
    simp [isLeftOut, Bool.not_or]
  show ((text.dropWhile isBlankOrControl).rdropWhile isBlankOrControl).filter _ = _
  rw [hlast, hkept]

theorem IsTail.not_isBlankOrControl (h : IsTail xs) {c : Char} (hc : c ∈ xs) : isBlankOrControl c = false := by
  simpa [isBlankOrControl] using (h.plain c hc).1

theorem not_isLeftOut {c : Char} (h : isBlankOrControl c = false) : isLeftOut c = false := by
  rw [← Bool.not_eq_true] at h ⊢
  intro hc
  simp only [isLeftOut, Bool.or_eq_true, decide_eq_true_eq] at hc
  rcases hc with (rfl | rfl) | rfl <;> exact h rfl

theorem IsTail.filter_isLeftOut (h : IsTail xs) : xs.filter (!isLeftOut ·) = xs :=
  List.filter_eq_self.2 fun _ hc => by rw [not_isLeftOut (h.not_isBlankOrControl hc)]; rfl

theorem cleaned_append (hxs : IsTail xs) (hend : ∀ c ∈ (text ++ xs).getLast?, 0x20 < c.toNat)
    (h : text.dropWhile isBlankOrControl ≠ []) :
    cleaned (text ++ xs) = (text.dropWhile isBlankOrControl).filter (!isLeftOut ·) ++ xs := by
  rw [cleaned_eq_filter hend, List.dropWhile_append, if_neg (by simpa using h), List.filter_append, hxs.filter_isLeftOut]

/-- A scheme does not begin with the tail. -/
theorem dropWhile_ne_nil_of_scheme? (hxs : IsTail xs) (hend : ∀ c ∈ (text ++ xs).getLast?, 0x20 < c.toNat)
    (h : scheme? (cleaned (text ++ xs)) ≠ none) : text.dropWhile isBlankOrControl ≠ [] := by
  intro hempty
  have hself : xs.dropWhile isBlankOrControl = xs :=
    List.dropWhile_eq_self_iff.2 fun hl => by
      simp [hxs.not_isBlankOrControl (List.getElem_mem hl)]
  rw [cleaned_eq_filter hend, List.dropWhile_append, if_pos (by simp [hempty]), hself, hxs.filter_isLeftOut] at h
  exact h (scheme?_tail hxs)

/-- On the web a path after an address leads to the same host, slashes at the end of the address apart. -/
theorem parse?_append (hxs : ∀ c ∈ xs, c = '/') (hys : IsTail ys)
    (hxsEnd : ∀ c ∈ (text ++ xs).getLast?, 0x20 < c.toNat) (hysEnd : ∀ c ∈ (text ++ ys).getLast?, 0x20 < c.toNat)
    {address : Address} (h : parse? (.ofList (text ++ xs)) = some address)
    (hscheme : SchemeKind.of address.scheme = .web) :
    ∃ other, parse? (.ofList (text ++ ys)) = some other ∧ other.scheme = address.scheme ∧
      other.authority = address.authority := by
  have htail := IsTail.of_slashes hxs
  obtain ⟨rest, a, before, hrest, ha, hauthority⟩ := (exists_parse?_iff hscheme).1 ⟨address, h, rfl, rfl⟩
  rw [String.toList_ofList] at hrest
  have hstart := dropWhile_ne_nil_of_scheme? htail hxsEnd (by simp [hrest])
  rw [cleaned_append htail hxsEnd hstart] at hrest
  obtain ⟨after, rfl, hscheme?⟩ := scheme?_append htail hys hrest
  rw [← cleaned_append hys hysEnd hstart] at hscheme?
  have hhost : betweenSlashes (beforeSigns (after ++ ys)) = betweenSlashes (beforeSigns (after ++ xs)) := by
    obtain hbefore | hbefore := beforeSigns_append after
    · have hne : betweenSlashes after ≠ [] := by
        intro hempty
        rw [hbefore xs htail, betweenSlashes_append_slashes hxs, hempty, authority?_nil hscheme] at ha
        cases ha
      rw [hbefore xs htail, hbefore ys hys, betweenSlashes_append_slashes hxs, betweenSlashes_append hys hne]
    · rw [hbefore xs htail, hbefore ys hys]
  refine (exists_parse?_iff hscheme).2 ⟨after ++ ys, a, before, ?_, hhost ▸ ha, hauthority⟩
  rwa [String.toList_ofList]

theorem web_of_takesRequests {address : Address} (h : address.takesRequests) : SchemeKind.of address.scheme = .web := by
  simp only [takesRequests, Bool.and_eq_true, Bool.or_eq_true, decide_eq_true_eq] at h
  obtain ⟨⟨hscheme | hscheme, -⟩, -⟩ := h <;> rw [hscheme] <;> rfl

theorem hasHost_of_same {a b : Address} (h : b.hasHost) (hauthority : a.authority = b.authority) : a.hasHost := by
  rw [hasHost] at h ⊢
  rwa [hauthority]

/-- Whether an address that leads to a host takes requests is up to its scheme, its authority and its length. -/
theorem takesRequests_of_same {a b : Address} (h : b.takesRequests) (hhost : b.hasHost) (hscheme : a.scheme = b.scheme)
    (hauthority : a.authority = b.authority) (hlength : a.render.utf8ByteSize ≤ longestAddress) : a.takesRequests := by
  obtain ⟨authority, hb⟩ : ∃ authority, b.authority = some authority := by
    cases hb : b.authority with
    | none => simp [hasHost, hb] at hhost
    | some authority => exact ⟨authority, rfl⟩
  have hrender : a.renderAuthority = b.renderAuthority := by
    unfold renderAuthority
    rw [hauthority, hb]
  simp only [takesRequests, Bool.and_eq_true] at h ⊢
  rw [hscheme, hrender]
  exact ⟨⟨h.1.1, decide_eq_true hlength⟩, h.2⟩

end Address

/-! ## Connections -/

namespace Connection

/-- The root of the addresses of services. -/
def root (connection : Connection) : String := connection.baseUrl.getD standardBaseUrl

/-- The key may stand in a header, and the root is an address that takes requests, without a blank at its end. What
the services add to the root must not make it too long. -/
structure Valid (connection : Connection) : Prop where
  takesRequests : ∃ address, Address.parse? connection.root = some address ∧
    address.anonymous.hasHost ∧ address.anonymous.takesRequests
  closed : ∀ c ∈ connection.root.toList.getLast?, 0x20 < c.toNat
  fits : ∀ service address, Address.parse? (connection.address service) = some address →
    address.anonymous.render.utf8ByteSize ≤ longestAddress
  key : fitsHeader connection.apiKey

-- A blank that ends a root is passed over, but one before a slash is part of the host.
example : (Address.parse? "http://h ").isSome ∧ Address.parse? "http://h /chat" = none := by decide +kernel

variable {connection : Connection}

/-- The root without the slashes at its end. -/
def trunk (connection : Connection) : List Char := connection.root.toList.rdropWhile (· = '/')

theorem root_eq (connection : Connection) :
    connection.root = .ofList (connection.trunk ++ connection.root.toList.rtakeWhile (· = '/')) := by
  rw [trunk, List.rdropWhile_append_rtakeWhile, String.ofList_toList]

theorem isTail_path (service : Service) : Address.IsTail ('/' :: service.path.toList) where
  head := by simp
  plain := by cases service <;> simp [Service.path]

theorem last_path (text : List Char) (service : Service) :
    ∀ c ∈ (text ++ '/' :: service.path.toList).getLast?, 0x20 < c.toNat := by
  rw [List.getLast?_append_of_ne_nil _ (List.cons_ne_nil _ _)]
  cases service <;> simp [Service.path]

/-- Every service of a valid connection has an address, with the scheme and the authority of the root. -/
theorem Valid.exists_parse?_address (h : connection.Valid) (service : Service) :
    ∃ root address, Address.parse? connection.root = some root ∧ root.anonymous.hasHost ∧ root.anonymous.takesRequests ∧
      Address.parse? (connection.address service) = some address ∧
      address.scheme = root.scheme ∧ address.authority = root.authority := by
  obtain ⟨root, hroot, hhost, htakes⟩ := h.takesRequests
  have hslashes : ∀ c ∈ connection.root.toList.rtakeWhile (· = '/'), c = '/' := fun c hc => by
    simpa using List.mem_rtakeWhile_imp hc
  have hclosed := h.closed
  rw [root_eq, String.toList_ofList] at hclosed
  rw [root_eq] at hroot
  have hweb : SchemeKind.of root.anonymous.scheme = .web := Address.web_of_takesRequests htakes
  obtain ⟨address, haddress⟩ := Address.parse?_append hslashes (isTail_path service) hclosed (last_path _ service) hroot
    hweb
  rw [← root_eq] at hroot
  exact ⟨root, address, hroot, hhost, htakes, haddress⟩

/-- Requests to the services of a valid connection can be made. -/
theorem Valid.exists_make (h : connection.Valid) (service : Service) :
    ∃ address, Address.parse? (connection.address service) = some address ∧
      ∀ body, Request.make (connection.address service) connection.apiKey body =
        .ok ⟨address.anonymous, connection.apiKey, body⟩ := by
  obtain ⟨root, address, -, hhost, htakes, haddress, hscheme, hauthority⟩ := h.exists_parse?_address service
  have hsame : address.anonymous.authority = root.anonymous.authority :=
    congrArg (Option.map Authority.anonymous) hauthority
  have hhost' : address.anonymous.hasHost := Address.hasHost_of_same hhost hsame
  have htakes' : address.anonymous.takesRequests :=
    Address.takesRequests_of_same htakes hhost hscheme hsame (h.fits service address haddress)
  refine ⟨address, haddress, fun body => ?_⟩
  simp [Request.make, haddress, hhost', h.key, htakes']

/-- The address of a service under the standard root. -/
def standardAddress (path : String) : Address := ⟨"https", some { host := .name "api.openai.com" }, path, none, none⟩

theorem parse?_standardBaseUrl : Address.parse? standardBaseUrl = some (standardAddress "/v1") := by
  decide +kernel

theorem parse?_address_of_standard (hbase : connection.baseUrl = none) (service : Service) :
    Address.parse? (connection.address service) = some (standardAddress ("/v1/" ++ service.path)) := by
  rw [Connection.address, hbase]
  cases service <;> decide +kernel

/-- The standard root is valid. -/
theorem Valid.of_standard (hbase : connection.baseUrl = none) (hkey : fitsHeader connection.apiKey) :
    connection.Valid where
  takesRequests := by
    rw [root, hbase]
    exact ⟨_, parse?_standardBaseUrl, by decide +kernel, by decide +kernel⟩
  closed := by
    rw [root, hbase]
    simp [standardBaseUrl]
  fits service address h := by
    rw [parse?_address_of_standard hbase] at h
    cases h
    cases service <;> decide +kernel
  key := hkey

end Connection

end GroundedQA.Remote
