import Hartevo.Foundation.Codes

/-!
# Text, checked integers and instants

The primitive values of the modelled code.  A string is a sequence of Unicode scalar values whose
length is its number of UTF-8 bytes; `trim` strips the characters of the `White_Space` property.
An unsigned integer of a fixed width is a natural number, with its overflow behaviour in
`checkedAdd` and `saturatingAdd`.  An instant is a number of nanoseconds since the Unix epoch, and
`DateTime.checkedAddSeconds` fails outside the range of the calendar.

A relative path is read through the list of its slash-separated components.  `LiesUnder` is the
containment of a path in a scope, and `scopesOverlap_eq_true_iff` says that the textual overlap
test on two scopes decides whether some path lies under both.
-/

namespace Hartevo

open List

/-! ## Strings -/

/-- The number of UTF-8 bytes of a string. -/
def strLen (s : String) : ℕ :=
  (s.toList.map Char.utf8Size).sum

/-- The characters with the Unicode property `White_Space`. -/
def isWhiteSpace (c : Char) : Bool :=
  let n := c.toNat
  (9 ≤ n && n ≤ 13) || n == 0x20 || n == 0x85 || n == 0xA0 || n == 0x1680 ||
    (0x2000 ≤ n && n ≤ 0x200A) || n == 0x2028 || n == 0x2029 || n == 0x202F || n == 0x205F ||
    n == 0x3000

/-- The control characters, Unicode category `Cc`. -/
def isControl (c : Char) : Bool :=
  c.toNat < 0x20 || (0x7F ≤ c.toNat && c.toNat ≤ 0x9F)

/-- A string without its leading and trailing white space. -/
def trim (s : String) : String :=
  String.ofList ((s.toList.dropWhile isWhiteSpace).rdropWhile isWhiteSpace)

/-- `s.trim().is_empty()`. -/
def isBlank (s : String) : Bool :=
  (trim s).isEmpty

/-- A string is blank when all of its characters are white space. -/
lemma isBlank_iff {s : String} : isBlank s = true ↔ ∀ c ∈ s.toList, isWhiteSpace c = true := by
  have hd : (∀ c ∈ s.toList.dropWhile isWhiteSpace, isWhiteSpace c = true) ↔
      s.toList.dropWhile isWhiteSpace = [] := by
    refine ⟨fun hall => ?_, fun hnil c hc => ?_⟩
    · by_contra hne
      have hh := head_dropWhile_not isWhiteSpace hne
      rw [hall _ (head_mem hne)] at hh
      cases hh
    · rw [hnil] at hc
      exact absurd hc not_mem_nil
  rw [isBlank, trim, String.isEmpty_iff, String.ofList_eq_empty_iff, rdropWhile_eq_nil_iff,
    hd, dropWhile_eq_nil_iff]

lemma trim_trim (s : String) : trim (trim s) = trim s := by
  have hh : ((s.toList.dropWhile isWhiteSpace).rdropWhile isWhiteSpace).dropWhile isWhiteSpace =
      (s.toList.dropWhile isWhiteSpace).rdropWhile isWhiteSpace := by
    refine dropWhile_eq_self_iff.mpr fun hl => ?_
    have hp := rdropWhile_prefix isWhiteSpace (s.toList.dropWhile isWhiteSpace)
    rw [hp.getElem hl]
    exact dropWhile_get_zero_not isWhiteSpace s.toList (hl.trans_le hp.length_le)
  rw [trim, trim, String.toList_ofList, hh, rdropWhile_idempotent]

/-- `s.starts_with(p)`. -/
def startsWith (s p : String) : Bool :=
  p.toList.isPrefixOf s.toList

/-- `s.ends_with(p)`. -/
def endsWith (s p : String) : Bool :=
  p.toList.isSuffixOf s.toList

/-- The parts of a string before and after the first occurrence of a pattern. -/
def splitOnceChars (pattern : List Char) : List Char → Option (List Char × List Char)
  | [] => if pattern = [] then some ([], []) else none
  | c :: rest =>
    if pattern.isPrefixOf (c :: rest) then some ([], (c :: rest).drop pattern.length)
    else (splitOnceChars pattern rest).map fun parts => (c :: parts.1, parts.2)

/-- `s.split_once(p)`. -/
def splitOnce (s p : String) : Option (String × String) :=
  (splitOnceChars p.toList s.toList).map fun parts =>
    (String.ofList parts.1, String.ofList parts.2)

/-- `s.contains(p)`. -/
def containsText (s p : String) : Bool :=
  (splitOnce s p).isSome

/-- A short ASCII identifier: letters, digits and `_-.:/`. -/
def token (value : String) : Bool :=
  !value.isEmpty && decide (strLen value ≤ 160) &&
    value.toList.all fun c => c.isAlphanum || "_-.:/".toList.contains c

/-- A lower-case hexadecimal digit. -/
def isLowerHex (c : Char) : Bool :=
  c.isDigit || ('a' ≤ c && c ≤ 'f')

/-- The printed form of a SHA-256 value: 64 lower-case hexadecimal digits. -/
def digest (value : String) : Bool :=
  strLen value == 64 && value.toList.all isLowerHex

/-- A SHA-256 value in hexadecimal, in either case. -/
def isSha256 (value : String) : Bool :=
  strLen value == 64 && value.toList.all fun c => isLowerHex c || ('A' ≤ c && c ≤ 'F')

/-- The hexadecimal digit of a number below sixteen. -/
def hexChar (n : Fin 16) : Char :=
  "0123456789abcdef".toList.get (n.cast (by decide))

/-- The last hexadecimal digit of a number. -/
def hexDigit (n : ℕ) : Char :=
  hexChar (Fin.ofNat 16 n)

/-- `format!("{:x}", value)` of a 256-bit hash value: every digit is printed. -/
def lowerHex (value : BitVec 256) : String :=
  String.ofList ((List.range 64).map fun i => hexChar (Fin.ofNat 16 (value.toNat / 16 ^ (63 - i))))

lemma hexChar_isLowerHex (n : Fin 16) : isLowerHex (hexChar n) = true := by
  revert n; decide

lemma hexChar_utf8Size (n : Fin 16) : (hexChar n).utf8Size = 1 := by
  revert n; decide

/-- A printed hash value has the form of a digest. -/
lemma digest_lowerHex (value : BitVec 256) : digest (lowerHex value) = true := by
  have hlen : strLen (lowerHex value) = 64 := by
    simp only [strLen, lowerHex, String.toList_ofList, map_map, Function.comp_def, hexChar_utf8Size]
    simp
  have hall : (lowerHex value).toList.all isLowerHex = true := by
    simp [lowerHex, hexChar_isLowerHex]
  simp [digest, hlen, hall]

lemma hexChar_injective : Function.Injective hexChar := by
  decide

/-- Different hash values are printed differently. -/
lemma lowerHex_injective : Function.Injective lowerHex := by
  intro a b h
  have hdi := map_inj_left.mp (String.ofList_injective h)
  have hmod : a.toNat % 16 ^ 64 = b.toNat % 16 ^ 64 := by
    refine mod_pow_eq_of_digits fun i hi => ?_
    have hd := hexChar_injective (hdi (63 - i) (mem_range.mpr (by omega)))
    have hi' : 63 - (63 - i) = i := by omega
    rw [hi'] at hd
    exact congrArg Fin.val hd
  have ha : a.toNat < 16 ^ 64 := lt_of_lt_of_eq a.isLt (by norm_num)
  have hb : b.toNat < 16 ^ 64 := lt_of_lt_of_eq b.isLt (by norm_num)
  rw [Nat.mod_eq_of_lt ha, Nat.mod_eq_of_lt hb] at hmod
  exact BitVec.eq_of_toNat_eq hmod

lemma isSha256_of_digest {value : String} (h : digest value = true) : isSha256 value = true := by
  simp only [digest, Bool.and_eq_true, all_eq_true] at h
  simp only [isSha256, Bool.and_eq_true, all_eq_true]
  refine ⟨h.1, fun c hc => ?_⟩
  rw [h.2 c hc]
  rfl

/-! ## Machine integers -/

/-- Addition of unsigned integers of the given width, if it does not overflow. -/
def checkedAdd (width a b : ℕ) : Option ℕ :=
  if a + b < 2 ^ width then some (a + b) else none

@[simp] lemma checkedAdd_eq_some {width a b c : ℕ} :
    checkedAdd width a b = some c ↔ a + b < 2 ^ width ∧ a + b = c := by
  unfold checkedAdd
  split <;> simp_all

/-- The next integer, where there is one. -/
lemma checkedAdd_one {width a : ℕ} (h : a + 1 < 2 ^ width) : checkedAdd width a 1 = some (a + 1) :=
  checkedAdd_eq_some.mpr ⟨h, rfl⟩

/-- Conversion of a count to an unsigned integer of the given width, if it fits. -/
def tryFromCount (width n : ℕ) : Option ℕ :=
  if n < 2 ^ width then some n else none

@[simp] lemma tryFromCount_eq_some {width n m : ℕ} :
    tryFromCount width n = some m ↔ n < 2 ^ width ∧ n = m := by
  unfold tryFromCount
  split <;> simp_all

/-- The integer as a signed 64-bit integer, if it fits. -/
def checkedI64 (n : ℤ) : Option ℤ :=
  if -2 ^ 63 ≤ n ∧ n < 2 ^ 63 then some n else none

@[simp] lemma checkedI64_eq_some {n m : ℤ} :
    checkedI64 n = some m ↔ (-2 ^ 63 ≤ n ∧ n < 2 ^ 63) ∧ n = m := by
  unfold checkedI64
  split <;> simp_all

/-- Addition of unsigned integers of the given width, stopping at the largest one. -/
def saturatingAdd (width a b : ℕ) : ℕ :=
  min (a + b) (2 ^ width - 1)

/-! ## Instants -/

/-- An instant, in nanoseconds since the Unix epoch. -/
abbrev DateTime := ℤ

/-- The number of nanoseconds of a second. -/
def nanosPerSecond : ℤ := 1000000000

/-- The first instant of the calendar. -/
def DateTime.minUtc : DateTime := -8334601228800 * nanosPerSecond

/-- The last instant of the calendar. -/
def DateTime.maxUtc : DateTime := 8210266876800 * nanosPerSecond - 1

/-- `checked_add_signed` of a whole number of seconds. -/
def DateTime.checkedAddSeconds (t : DateTime) (seconds : ℤ) : Option DateTime :=
  if DateTime.minUtc ≤ t + seconds * nanosPerSecond ∧
      t + seconds * nanosPerSecond ≤ DateTime.maxUtc then
    some (t + seconds * nanosPerSecond)
  else none

/-- A shifted instant is the instant plus the seconds. -/
lemma DateTime.eq_of_checkedAddSeconds {t u : DateTime} {seconds : ℤ}
    (h : DateTime.checkedAddSeconds t seconds = some u) : u = t + seconds * nanosPerSecond := by
  unfold DateTime.checkedAddSeconds at h
  split at h
  · exact (Option.some.inj h).symm
  · cases h

/-- `checked_add_signed` of a duration, in nanoseconds. -/
def DateTime.checkedAddSigned (t : DateTime) (duration : ℤ) : Option DateTime :=
  if DateTime.minUtc ≤ t + duration ∧ t + duration ≤ DateTime.maxUtc then some (t + duration)
  else none

lemma DateTime.eq_of_checkedAddSigned {t u : DateTime} {duration : ℤ}
    (h : DateTime.checkedAddSigned t duration = some u) : u = t + duration := by
  unfold DateTime.checkedAddSigned at h
  split at h
  · exact (Option.some.inj h).symm
  · cases h

/-- `num_seconds` of a duration: whole seconds, rounded towards zero. -/
def numSeconds (duration : ℤ) : ℤ :=
  duration.tdiv nanosPerSecond

/-! ## Relative paths and scopes -/

/-- The slash-separated components of a path. -/
def components (path : String) : List (List Char) :=
  path.toList.splitOn '/'

/-- A canonical relative path, or `.` for the whole workspace. -/
def relativeScope (value : String) : Bool :=
  value == "." ||
    (!value.isEmpty && decide (strLen value ≤ 512) &&
      !value.toList.any (fun c => c == '\\' || c == '\x00' || c == ':') &&
      !value.toList.any isControl &&
      (components value).all fun part => part != [] && part != ['.'] && part != ['.', '.'])

/-- The textual test for two scopes that may contain a common path. -/
def scopesOverlap (a b : String) : Bool :=
  a == "." || b == "." || a == b || startsWith a (b ++ "/") || startsWith b (a ++ "/")

/-- A path lies under a scope when the scope is `.` or its components begin those of the path. -/
def LiesUnder (path scope : String) : Prop :=
  scope = "." ∨ components scope <+: components path

lemma components_ne_nil (path : String) : components path ≠ [] := by
  simp only [components, List.splitOn]
  exact splitOnP_ne_nil _ _

/-- A path is recovered from its components. -/
lemma intercalate_components (path : String) :
    List.intercalate ['/'] (components path) = path.toList :=
  intercalate_splitOn '/'

/-- Going down from a scope appends components. -/
lemma components_append_slash (scope rest : String) :
    components (scope ++ "/" ++ rest) = components scope ++ components rest := by
  simp only [components, List.splitOn, String.toList_append]
  have hs : ('/' == '/') = true := by decide
  simpa using splitOnP_append_cons (p := (· == '/')) scope.toList rest.toList hs

/-- Joining components puts one separator between the two groups. -/
lemma intercalate_append {xs ys : List (List Char)} (hx : xs ≠ []) (hy : ys ≠ []) :
    List.intercalate ['/'] (xs ++ ys) =
      List.intercalate ['/'] xs ++ ['/'] ++ List.intercalate ['/'] ys := by
  induction xs with
  | nil => exact absurd rfl hx
  | cons x xs ih =>
    cases xs with
    | nil =>
      obtain ⟨y, ys, rfl⟩ := exists_cons_of_ne_nil hy
      simp [List.intercalate]
    | cons x' xs =>
      have := ih (by simp)
      simp only [List.intercalate, cons_append, intersperse_cons_cons, flatten_cons,
        append_assoc] at this ⊢
      rw [this]

/-- A scope whose components begin those of a path is the path or is followed by a slash in it. -/
lemma eq_or_startsWith_of_components_prefix {scope path : String}
    (h : components scope <+: components path) :
    scope = path ∨ startsWith path (scope ++ "/") = true := by
  obtain ⟨rest, hr⟩ := h
  by_cases hnil : rest = []
  · left
    rw [hnil, append_nil] at hr
    apply String.toList_inj.mp
    rw [← intercalate_components scope, hr, intercalate_components]
  · right
    have hp : path.toList = scope.toList ++ ['/'] ++ List.intercalate ['/'] rest := by
      rw [← intercalate_components path, ← hr,
        intercalate_append (components_ne_nil scope) hnil, intercalate_components]
    rw [startsWith, isPrefixOf_iff_prefix, hp, String.toList_append]
    exact ⟨List.intercalate ['/'] rest, by simp⟩

/-- A scope that is followed by a slash in a path has the path under it. -/
lemma components_prefix_of_startsWith {scope path : String}
    (h : startsWith path (scope ++ "/") = true) : components scope <+: components path := by
  rw [startsWith, isPrefixOf_iff_prefix] at h
  obtain ⟨rest, hr⟩ := h
  have hp : path = scope ++ "/" ++ String.ofList rest := by
    apply String.toList_inj.mp
    rw [String.toList_append, String.toList_ofList, hr]
  rw [hp, components_append_slash]
  exact prefix_append _ _

/-- The textual test decides whether some path lies under both scopes. -/
lemma scopesOverlap_eq_true_iff (a b : String) :
    scopesOverlap a b = true ↔ ∃ path, LiesUnder path a ∧ LiesUnder path b := by
  simp only [scopesOverlap, Bool.or_eq_true, beq_iff_eq]
  constructor
  · rintro ((((ha | hb) | hab) | h) | h)
    · exact ⟨b, Or.inl ha, Or.inr prefix_rfl⟩
    · exact ⟨a, Or.inr prefix_rfl, Or.inl hb⟩
    · exact ⟨a, Or.inr prefix_rfl, hab ▸ Or.inr prefix_rfl⟩
    · exact ⟨a, Or.inr prefix_rfl, Or.inr (components_prefix_of_startsWith h)⟩
    · exact ⟨b, Or.inr (components_prefix_of_startsWith h), Or.inr prefix_rfl⟩
  · rintro ⟨path, ha | ha, hb | hb⟩
    · simp [ha]
    · simp [ha]
    · simp [hb]
    · -- Two prefixes of one component list are comparable.
      rcases prefix_or_prefix_of_prefix ha hb with h | h
      · rcases eq_or_startsWith_of_components_prefix h with h | h
        · simp [h]
        · simp [h]
      · rcases eq_or_startsWith_of_components_prefix h with h | h
        · simp [h]
        · simp [h]

end Hartevo
