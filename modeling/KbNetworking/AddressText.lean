/-
# The text that is connected to

`try_connect` joins the address and the port with `':'` and has the transport parse the
result, in whose grammar `':'` separates the groups of an IPv6 address too
(`udp_client.cpp`, `network_utils.cpp`).  `ParseString` is the transport's; what it is
documented to do is written down here as a function, and the client is compared with it.
An IPv4 address comes out as it was meant, with its port.  An IPv6 address takes the port
for one more group: it is rejected, or another address is connected to on port 0, the one
exception being a text whose groups after `"::"` are all zero, on port 0.
-/
import KbNetworking.Lib.Fields
import KbNetworking.UdpClient

namespace KbNetworking

open Cpp Fields

/-! ## What `ParseString` is documented to do -/

namespace SteamNetworkingIPAddr

/-- A nonempty run of decimal digits. -/
def decimal (text : List Char) : Option Nat :=
  if text ≠ [] ∧ text.all Char.isDigit then some (Nat.ofDigitChars 10 text 0) else none

/-- A port, after its `':'`. -/
def portNumber (text : List Char) : Option UInt16 :=
  (decimal text).bind fun n => if n < 65536 then some (UInt16.ofNat n) else none

/-- One field of a dotted IPv4 address. -/
def octet (text : List Char) : Option UInt8 :=
  (decimal text).bind fun n =>
    if text.length ≤ 3 ∧ n < 256 then some (UInt8.ofNat n) else none

/-- The value of a hex digit. -/
def hexDigit (c : Char) : Option Nat :=
  if '0' ≤ c ∧ c ≤ '9' then some (c.toNat - '0'.toNat)
  else if 'a' ≤ c ∧ c ≤ 'f' then some (c.toNat - 'a'.toNat + 10)
  else if 'A' ≤ c ∧ c ≤ 'F' then some (c.toNat - 'A'.toNat + 10)
  else none

/-- One group of an IPv6 address, of one to four hex digits. -/
def group (text : List Char) : Option UInt16 :=
  if text ≠ [] ∧ text.length ≤ 4 then
    (text.mapM hexDigit).map fun digits => UInt16.ofNat (Nat.ofDigits 16 digits.reverse)
  else none

/-- Sixteen bytes in network order. -/
def sixteen (bytes : List UInt8) : Option (Vector UInt8 16) :=
  if h : bytes.toArray.size = 16 then some ⟨bytes.toArray, h⟩ else none

/-- The bytes of the groups, the high byte of each first. -/
def groupBytes (groups : List UInt16) : List UInt8 :=
  groups.flatMap fun (g : UInt16) => [(g >>> 8).toUInt8, g.toUInt8]

/-- Dotted IPv4, as the IPv4-mapped address `::ffff:0:0/96`. -/
def ipv4 (text : List Char) : Option (Vector UInt8 16) :=
  (readFields '.' octet text).bind fun octets =>
    sixteen (List.replicate 10 0 ++ [0xFF, 0xFF] ++ octets)

/-- The groups on one side of a `"::"`, where there may be none. -/
def sideGroups (text : List Char) : Option (List UInt16) :=
  if text = [] then some [] else readFields ':' group text

/-- The groups written before and after the `"::"` of a text that has one. -/
def compressed (text : List Char) : Option (List UInt16 × List UInt16) := do
  let (left, right) ← splitPair ':' text
  return (← sideGroups left, ← sideGroups right)

/-- The address of a text with a `"::"`, which stands for one or more groups of zeros. -/
def expand (left right : List UInt16) : Option (Vector UInt8 16) :=
  if left.length + right.length ≤ 7 then
    sixteen (groupBytes (left ++ List.replicate (8 - (left.length + right.length)) 0 ++ right))
  else none

/-- Bare IPv6 text, with at most one `"::"`: what follows the first is read as groups, and
no group is empty. -/
def ipv6 (text : List Char) : Option (Vector UInt8 16) :=
  if splitPair ':' text = none then
    (readFields ':' group text).bind fun groups => sixteen (groupBytes groups)
  else (compressed text).bind fun (left, right) => expand left right

/-- Text that carries no port. -/
def withoutPort (text : List Char) : Option (Vector UInt8 16) :=
  ipv6 text <|> ipv4 text

/-- `1.2.3.4:port`. -/
def ipv4WithPort (text : List Char) : Option SteamNetworkingIPAddr :=
  match text.splitOn ':' with
  | [host, port] => do return { ip := ← ipv4 host, port := ← portNumber port }
  | _ => none

/-- `[IPv6]:port`. -/
def ipv6WithPort (text : List Char) : Option SteamNetworkingIPAddr :=
  match text with
  | '[' :: rest =>
    match rest.splitOn ']' with
    | [host, ':' :: port] => do return { ip := ← ipv6 host, port := ← portNumber port }
    | _ => none
  | _ => none

/-- `SteamNetworkingIPAddr::ParseString`: the port is 0 when none is written. -/
def documentedParse (text : List Char) : Option SteamNetworkingIPAddr :=
  (withoutPort text).map (fun ip => { ip, port := 0 }) <|> ipv4WithPort text
    <|> ipv6WithPort text

example : documentedParse "[::1]:7000".toList
    = some { ip := #v[0, 0, 0, 0, 0, 0, 0, 0, 0, 0, 0, 0, 0, 0, 0, 1], port := 7000 } := by
  decide

/-! ## The symbols of an address -/

theorem isDigit_of_decimal {text : List Char} {n : Nat} (hread : decimal text = some n) :
    ∀ c ∈ text, c.isDigit := by
  unfold decimal at hread
  split at hread
  · rename_i h
    simpa using h.2
  · cases hread

theorem isDigit_of_octet {text : List Char} {n : UInt8} (hread : octet text = some n) :
    ∀ c ∈ text, c.isDigit := by
  unfold octet at hread
  rw [Option.bind_eq_some_iff] at hread
  obtain ⟨m, hdecimal, -⟩ := hread
  exact isDigit_of_decimal hdecimal

theorem group_nil : group [] = none := by simp [group]

theorem hexDigit_of_group {text : List Char} {g : UInt16} (hread : group text = some g) :
    ∀ c ∈ text, (hexDigit c).isSome := by
  have hdigits : ∀ (text : List Char) (digits : List Nat), text.mapM hexDigit = some digits →
      ∀ c ∈ text, (hexDigit c).isSome := by
    intro text
    induction text with
    | nil => intro _ _ c hc; cases hc
    | cons d rest ih =>
      intro digits hmap c hc
      simp only [List.mapM_cons, Option.bind_eq_bind, Option.bind_eq_some_iff] at hmap
      obtain ⟨v, hv, vs, hvs, -⟩ := hmap
      obtain rfl | hc := List.mem_cons.mp hc
      · exact Option.isSome_of_eq_some hv
      · exact ih vs hvs c hc
  unfold group at hread
  split at hread
  · rw [Option.map_eq_some_iff] at hread
    obtain ⟨digits, hmap, -⟩ := hread
    exact hdigits text digits hmap
  · cases hread

/-- Dotted IPv4 is written with digits and dots. -/
theorem eq_dot_or_of_ipv4 {text : List Char} {ip : Vector UInt8 16} (hread : ipv4 text = some ip) :
    ∀ c ∈ text, c = '.' ∨ c.isDigit := by
  unfold ipv4 at hread
  rw [Option.bind_eq_some_iff] at hread
  obtain ⟨octets, hoctets, -⟩ := hread
  exact eq_sep_or_of_mem (fun _ _ => isDigit_of_octet) hoctets

/-- Dotted IPv4 has a dot, for one field is not enough. -/
theorem dot_mem_of_ipv4 {text : List Char} {ip : Vector UInt8 16}
    (hread : ipv4 text = some ip) : '.' ∈ text := by
  by_contra hdot
  unfold ipv4 at hread
  rw [readFields_of_not_mem hdot] at hread
  cases hoctet : octet text <;> simp [hoctet, sixteen] at hread

theorem eq_colon_or_of_sideGroups {text : List Char} {groups : List UInt16}
    (hread : sideGroups text = some groups) : ∀ c ∈ text, c = ':' ∨ (hexDigit c).isSome := by
  unfold sideGroups at hread
  split at hread
  · rename_i hnil
    subst hnil
    intro c hc
    cases hc
  · exact eq_sep_or_of_mem (fun _ _ => hexDigit_of_group) hread

/-- The parts of a text that `compressed` reads. -/
theorem compressed_eq_some_iff {text : List Char} {left right : List UInt16} :
    compressed text = some (left, right) ↔
      ∃ before after, splitPair ':' text = some (before, after)
        ∧ sideGroups before = some left ∧ sideGroups after = some right := by
  unfold compressed
  constructor
  · intro h
    simp only [Option.bind_eq_bind, Option.bind_eq_some_iff, Option.pure_def, Option.some.injEq,
      Prod.mk.injEq] at h
    obtain ⟨⟨before, after⟩, hpair, left', hleft, right', hright, rfl, rfl⟩ := h
    exact ⟨before, after, hpair, hleft, hright⟩
  · rintro ⟨before, after, hpair, hleft, hright⟩
    simp [hpair, hleft, hright]

/-- IPv6 text is written with hex digits and colons. -/
theorem eq_colon_or_of_ipv6 {text : List Char} {ip : Vector UInt8 16}
    (hread : ipv6 text = some ip) : ∀ c ∈ text, c = ':' ∨ (hexDigit c).isSome := by
  unfold ipv6 at hread
  split at hread
  · rw [Option.bind_eq_some_iff] at hread
    obtain ⟨groups, hgroups, -⟩ := hread
    exact eq_sep_or_of_mem (fun _ _ => hexDigit_of_group) hgroups
  · rw [Option.bind_eq_some_iff] at hread
    obtain ⟨⟨left, right⟩, hparts, -⟩ := hread
    obtain ⟨before, after, hpair, hleft, hright⟩ := compressed_eq_some_iff.mp hparts
    intro c hc
    rw [eq_of_splitPair hpair] at hc
    simp only [List.mem_append, List.mem_cons] at hc
    obtain hc | hc | hc | hc := hc
    · exact eq_colon_or_of_sideGroups hleft c hc
    · exact .inl hc
    · exact .inl hc
    · exact eq_colon_or_of_sideGroups hright c hc

/-- No text is read as both kinds of address: a dot is neither a colon nor a hex digit. -/
theorem ipv6_of_dot_mem {text : List Char} (hdot : '.' ∈ text) : ipv6 text = none := by
  cases hread : ipv6 text with
  | none => rfl
  | some ip => exact absurd (eq_colon_or_of_ipv6 hread '.' hdot) (by decide)

theorem ipv4_of_colon_mem {text : List Char} (hcolon : ':' ∈ text) : ipv4 text = none := by
  cases hread : ipv4 text with
  | none => rfl
  | some ip => exact absurd (eq_dot_or_of_ipv4 hread ':' hcolon) (by decide)

/-! ## A port joined to the text -/

/-- The port as `fmt::format` writes it. -/
def portText (port : UInt16) : List Char := Nat.toDigits 10 port.toNat

theorem isDigit_of_mem_portText {port : UInt16} {c : Char} (hc : c ∈ portText port) :
    c.isDigit :=
  Nat.isDigit_of_mem_toDigits (by omega) (by omega) hc

theorem colon_not_mem_portText (port : UInt16) : ':' ∉ portText port := by
  intro hc
  exact absurd (isDigit_of_mem_portText hc) (by decide)

theorem portText_ne_nil (port : UInt16) : portText port ≠ [] := Nat.toDigits_ne_nil

/-- A port is read back as it was written. -/
theorem portNumber_portText (port : UInt16) : portNumber (portText port) = some port := by
  have hdigits : (portText port).all Char.isDigit := by
    rw [List.all_eq_true]
    intro c hc
    exact isDigit_of_mem_portText hc
  have hdecimal : decimal (portText port) = some port.toNat := by
    unfold decimal
    rw [if_pos ⟨portText_ne_nil port, hdigits⟩]
    exact congrArg some (Nat.ofDigitChars_toDigits (by omega) (by omega))
  have hlt : port.toNat < 65536 := port.toNat_lt
  simp [portNumber, hdecimal, hlt]

/-- An IPv4 address with a port is read as that address and that port. -/
theorem documentedParse_join_of_ipv4 {text : List Char} {ip : Vector UInt8 16}
    (hread : ipv4 text = some ip) (port : UInt16) :
    documentedParse (text ++ ':' :: portText port) = some { ip, port } := by
  have hcolon : ':' ∉ text := by
    intro hc
    exact absurd (eq_dot_or_of_ipv4 hread ':' hc) (by decide)
  have hfields : (text ++ ':' :: portText port).splitOn ':' = [text, portText port] := by
    rw [List.splitOn_append_cons_self, List.splitOn_eq_singleton hcolon,
      List.splitOn_eq_singleton (colon_not_mem_portText port)]
    rfl
  have hipv6 : ipv6 (text ++ ':' :: portText port) = none :=
    ipv6_of_dot_mem (List.mem_append_left _ (dot_mem_of_ipv4 hread))
  have hipv4 : ipv4 (text ++ ':' :: portText port) = none := ipv4_of_colon_mem (by simp)
  simp [documentedParse, withoutPort, hipv6, hipv4, ipv4WithPort, hfields, hread,
    portNumber_portText]

/-- Without a dot the part before a port is no IPv4 address. -/
theorem ipv4WithPort_of_no_dot {text : List Char} (hdot : '.' ∉ text) :
    ipv4WithPort text = none := by
  unfold ipv4WithPort
  split
  · rename_i host port hfields
    have hjoined : text = host ++ ':' :: port := by
      have h : [':'].intercalate (text.splitOn ':') = text := List.intercalate_splitOn ':'
      rw [hfields] at h
      simpa using h.symm
    cases hread : ipv4 host with
    | none => rfl
    | some ip =>
      refine absurd ?_ hdot
      rw [hjoined]
      exact List.mem_append_left _ (dot_mem_of_ipv4 hread)
  · rfl

/-- An IPv6 address with a port can only be read as an IPv6 address without one. -/
theorem documentedParse_join_of_ipv6 {text : List Char} {ip : Vector UInt8 16}
    (hread : ipv6 text = some ip) (port : UInt16) :
    documentedParse (text ++ ':' :: portText port)
      = (ipv6 (text ++ ':' :: portText port)).map fun ip => { ip, port := 0 } := by
  have hipv4 : ipv4 (text ++ ':' :: portText port) = none := ipv4_of_colon_mem (by simp)
  have hdot : '.' ∉ text ++ ':' :: portText port := by
    simp only [List.mem_append, List.mem_cons]
    rintro (hc | hc | hc)
    · exact absurd (eq_colon_or_of_ipv6 hread '.' hc) (by decide)
    · exact absurd hc (by decide)
    · exact absurd (isDigit_of_mem_portText hc) (by decide)
  have hbracket : ipv6WithPort (text ++ ':' :: portText port) = none := by
    cases text with
    | nil => rfl
    | cons first rest =>
      have hfirst : first ≠ '[' := by
        intro h
        subst h
        exact absurd (eq_colon_or_of_ipv6 hread '[' List.mem_cons_self) (by decide)
      simp [ipv6WithPort, hfirst]
  simp [documentedParse, withoutPort, hipv4, hbracket, ipv4WithPort_of_no_dot hdot]

/-! ## One more group -/

theorem sixteen_eq_some_iff {bytes : List UInt8} {ip : Vector UInt8 16} :
    sixteen bytes = some ip ↔ bytes = ip.toList := by
  unfold sixteen
  split
  · rename_i h
    simp only [Option.some.injEq]
    constructor
    · rintro rfl
      rfl
    · rintro rfl
      rfl
  · rename_i h
    simp only [List.size_toArray] at h
    constructor
    · intro hnone
      cases hnone
    · intro hbytes
      refine absurd ?_ h
      simp [hbytes]

theorem length_groupBytes (groups : List UInt16) :
    (groupBytes groups).length = 2 * groups.length := by
  induction groups with
  | nil => rfl
  | cons g groups ih =>
    have hcons : groupBytes (g :: groups) = [(g >>> 8).toUInt8, g.toUInt8] ++ groupBytes groups :=
      rfl
    simp only [hcons, List.length_append, ih, List.length_cons, List.length_nil]
    omega

/-- A group is known by its two bytes. -/
theorem eq_of_groupBytes_eq {g g' : UInt16} (hhigh : (g >>> 8).toUInt8 = (g' >>> 8).toUInt8)
    (hlow : g.toUInt8 = g'.toUInt8) : g = g' := by
  have hhigh' := congrArg UInt8.toNat hhigh
  have hlow' := congrArg UInt8.toNat hlow
  simp only [UInt16.toNat_toUInt8, UInt16.toNat_shiftRight, Nat.shiftRight_eq_div_pow]
    at hhigh' hlow'
  have hlt := g.toNat_lt
  have hlt' := g'.toNat_lt
  apply UInt16.toNat_inj.mp
  simp at hhigh' hlow'
  omega

theorem groupBytes_injective : Function.Injective groupBytes := by
  intro groups
  induction groups with
  | nil =>
    intro groups' h
    cases groups' with
    | nil => rfl
    | cons g' groups' => cases h
  | cons g groups ih =>
    intro groups' h
    cases groups' with
    | nil => cases h
    | cons g' groups' =>
      have hcons : ∀ (g : UInt16) (groups : List UInt16),
          groupBytes (g :: groups) = (g >>> 8).toUInt8 :: g.toUInt8 :: groupBytes groups :=
        fun _ _ => rfl
      simp only [hcons, List.cons.injEq] at h
      obtain ⟨hhigh, hlow, hrest⟩ := h
      rw [eq_of_groupBytes_eq hhigh hlow, ih hrest]

/-- Only a list of one value alone reads the same with that value before and after it. -/
theorem concat_eq_cons_iff {α : Type*} {a : α} {l : List α} :
    l ++ [a] = a :: l ↔ ∀ x ∈ l, x = a := by
  induction l with
  | nil => simp
  | cons b l ih =>
    simp only [List.cons_append, List.cons.injEq, List.mem_cons, forall_eq_or_imp]
    constructor
    · rintro ⟨rfl, h⟩
      exact ⟨rfl, ih.mp h⟩
    · rintro ⟨rfl, h⟩
      exact ⟨rfl, ih.mpr h⟩

/-- A group of zeros at the end moves the groups before it one place to the left. -/
theorem expand_concat_zero_iff {left right : List UInt16} {ip : Vector UInt8 16}
    (hread : expand left right = some ip) :
    expand left (right ++ [0]) = some ip
      ↔ (∀ g ∈ right, g = 0) ∧ left.length + right.length ≤ 6 := by
  unfold expand at hread ⊢
  rw [List.length_append, List.length_singleton]
  by_cases hroom : left.length + right.length ≤ 6
  · rw [if_pos (by omega), sixteen_eq_some_iff] at hread
    rw [if_pos (by omega), sixteen_eq_some_iff, ← hread, groupBytes_injective.eq_iff]
    have hzeros : List.replicate (8 - (left.length + right.length)) (0 : UInt16)
        = List.replicate (8 - (left.length + (right.length + 1))) 0 ++ [0] := by
      rw [← List.replicate_succ']
      congr 1
      omega
    rw [hzeros]
    simp only [List.append_assoc, List.append_cancel_left_eq, List.singleton_append,
      concat_eq_cons_iff]
    constructor
    · intro h
      exact ⟨h, hroom⟩
    · intro h
      exact h.1
  · rw [if_neg (by omega)]
    constructor
    · intro h
      cases h
    · rintro ⟨-, h⟩
      exact absurd h hroom

/-- The text ends in `"::"` and one or more groups, all of them zero, with room for one
more. -/
def EndsInZeroGroups (text : List Char) : Prop :=
  ∃ left right, compressed text = some (left, right)
    ∧ right ≠ [] ∧ (∀ g ∈ right, g = 0) ∧ left.length + right.length ≤ 6

/-- Joined to the groups on one side of a `"::"`, the port 0 is a group of its own; directly
after the `"::"` it is not, for then the group before it is empty. -/
theorem sideGroups_join_zero {text : List Char} {groups : List UInt16}
    (hread : sideGroups text = some groups) :
    sideGroups (text ++ ':' :: portText 0)
      = if groups = [] then none else some (groups ++ [0]) := by
  have hjoined : sideGroups (text ++ ':' :: portText 0)
      = (readFields ':' group text).bind fun groups => some (groups ++ [0]) := by
    unfold sideGroups
    rw [if_neg (by simp), readFields_concat (colon_not_mem_portText 0)]
    rfl
  unfold sideGroups at hread
  rw [hjoined]
  by_cases htext : text = []
  · rw [if_pos htext, Option.some.injEq] at hread
    rw [if_pos hread.symm, htext, readFields_nil, group_nil]
    rfl
  · rw [if_neg htext] at hread
    rw [if_neg (ne_nil_of_readFields hread), hread]
    rfl

/-- The port 0 is joined to the groups after the `"::"`. -/
theorem compressed_join_zero {text : List Char} {left right : List UInt16}
    (hparts : compressed text = some (left, right)) :
    compressed (text ++ ':' :: portText 0)
      = if right = [] then none else some (left, right ++ [0]) := by
  obtain ⟨before, after, hpair, hleft, hright⟩ := compressed_eq_some_iff.mp hparts
  have hjoined : splitPair ':' (text ++ ':' :: portText 0)
      = some (before, after ++ ':' :: portText 0) := splitPair_append hpair
  simp only [compressed, hjoined, hleft, sideGroups_join_zero hright, Option.bind_eq_bind,
    Option.bind_some]
  split <;> rfl

theorem ipv6_of_splitPair {text : List Char} {parts : List Char × List Char}
    (hpair : splitPair ':' text = some parts) :
    ipv6 text = (compressed text).bind fun (left, right) => expand left right := by
  unfold ipv6
  rw [if_neg (by simp [hpair])]

/-- Eight groups written out leave no room for the port. -/
theorem ipv6_join_of_full {text : List Char} {ip : Vector UInt8 16}
    (hpair : splitPair ':' text = none) (hread : ipv6 text = some ip) :
    ipv6 (text ++ ':' :: portText 0) = none := by
  unfold ipv6 at hread
  rw [if_pos hpair, Option.bind_eq_some_iff] at hread
  obtain ⟨groups, hgroups, hbytes⟩ := hread
  have hlength : groups.length = 8 := by
    have h := congrArg List.length (sixteen_eq_some_iff.mp hbytes)
    rw [length_groupBytes, Vector.length_toList] at h
    omega
  have hlast : text.getLast? ≠ some ':' := by
    intro hlast
    obtain ⟨init, rfl⟩ := List.getLast?_eq_some_iff.mp hlast
    rw [readFields_concat List.not_mem_nil, group_nil] at hgroups
    cases hinit : readFields ':' group init <;> simp [hinit] at hgroups
  have hjoined : readFields ':' group (text ++ ':' :: portText 0) = some (groups ++ [0]) := by
    rw [readFields_concat (colon_not_mem_portText 0), hgroups]
    rfl
  unfold ipv6
  rw [if_pos (splitPair_concat hpair hlast (portText_ne_nil 0) (colon_not_mem_portText 0)), hjoined,
    Option.bind_some]
  cases hlong : sixteen (groupBytes (groups ++ [0])) with
  | none => rfl
  | some ip' =>
    have h := congrArg List.length (sixteen_eq_some_iff.mp hlong)
    rw [length_groupBytes, Vector.length_toList, List.length_append, hlength] at h
    simp at h

/-- The port 0 joined to an IPv6 address leaves it the same address only where a group of
zeros more makes no difference. -/
theorem ipv6_join_zero_iff {text : List Char} {ip : Vector UInt8 16}
    (hread : ipv6 text = some ip) :
    ipv6 (text ++ ':' :: portText 0) = some ip ↔ EndsInZeroGroups text := by
  unfold EndsInZeroGroups
  cases hpair : splitPair ':' text with
  | none =>
    have hparts : compressed text = none := by simp [compressed, hpair]
    simp [ipv6_join_of_full hpair hread, hparts]
  | some parts =>
    rw [ipv6_of_splitPair hpair, Option.bind_eq_some_iff] at hread
    obtain ⟨⟨left, right⟩, hparts, hexpand⟩ := hread
    rw [ipv6_of_splitPair (splitPair_append hpair), compressed_join_zero hparts, hparts]
    by_cases hright : right = []
    · simp [hright]
    · rw [if_neg hright, Option.bind_some, expand_concat_zero_iff hexpand]
      constructor
      · rintro ⟨hzero, hroom⟩
        exact ⟨left, right, rfl, hright, hzero, hroom⟩
      · rintro ⟨left', right', hparts', -, hzero, hroom⟩
        cases hparts'
        exact ⟨hzero, hroom⟩

end SteamNetworkingIPAddr

/-! ## Connecting to the text -/

open SteamNetworkingIPAddr

variable {ι : Type}

theorem toList_addressWithPort (address : String) (port : UInt16) :
    (UdpClient.addressWithPort address port).toList = address.toList ++ ':' :: portText port := by
  simp [UdpClient.addressWithPort, portText, toString]

/-- `try_connect` calls the transport when the joined text is an address, and only then. -/
theorem tryConnect_trace (parseString : String → Option SteamNetworkingIPAddr) (me : ι)
    (address : String) (port : UInt16) (result : Connection) (c : ClientContext ι) :
    (UdpClient.tryConnect parseString me address port result c).1.trace
      = c.trace ++ .writeInstance me true
        :: UdpClient.attemptCalls parseString me address port result := by
  unfold UdpClient.tryConnect UdpClient.attemptCalls
  cases isValidIpAddress parseString (UdpClient.addressWithPort address port) with
  | false => rfl
  | true => by_cases hresult : result = kInvalidConnection <;> simp [hresult, Context.record]

/-- The text is of neither of the forms that carry a port. -/
def CarriesNoPort (address : String) : Prop :=
  ipv4WithPort address.toList = none ∧ ipv6WithPort address.toList = none

/-- An accepted text without a port is a bare address. -/
theorem withoutPort_of_valid {parseString : String → Option SteamNetworkingIPAddr}
    (hparse : ∀ text : String, parseString text = documentedParse text.toList)
    {address : String} (hvalid : isValidIpAddress parseString address = true)
    (hport : CarriesNoPort address) :
    ∃ ip, withoutPort address.toList = some ip
      ∧ parseString address = some { ip, port := 0 } := by
  have haccepted : (parseString address).isSome := by
    unfold isValidIpAddress at hvalid
    split at hvalid
    · cases hvalid
    · exact hvalid
  rw [hparse, documentedParse, hport.1, hport.2] at haccepted ⊢
  cases hread : withoutPort address.toList with
  | none => simp [hread] at haccepted
  | some ip => exact ⟨ip, rfl, rfl⟩

/-- `try_connect` reaches `ConnectByIPAddress`, with the address that was asked for and the
port that was asked for. -/
def ConnectsAsAsked (parseString : String → Option SteamNetworkingIPAddr) (me : ι)
    (address : String) (port : UInt16) (result : Connection) (c : ClientContext ι) : Prop :=
  ∃ addr, parseString address = some addr
    ∧ (UdpClient.tryConnect parseString me address port result c).1.trace
      = c.trace ++ [.writeInstance me true, .connectByIPAddress me { addr with port } result]

/-- What is connected to is what the joined text denotes. -/
theorem connectsAsAsked_iff_parse {parseString : String → Option SteamNetworkingIPAddr}
    {address : String} {addr : SteamNetworkingIPAddr} (haddr : parseString address = some addr)
    (me : ι) (port : UInt16) (result : Connection) (c : ClientContext ι) :
    ConnectsAsAsked parseString me address port result c
      ↔ parseString (UdpClient.addressWithPort address port) = some { addr with port } := by
  have hne : (UdpClient.addressWithPort address port).isEmpty = false := by
    simp [UdpClient.addressWithPort]
  unfold ConnectsAsAsked
  simp only [haddr, tryConnect_trace, UdpClient.attemptCalls, isValidIpAddress, hne,
    Option.some.injEq, exists_eq_left', List.append_cancel_left_eq]
  cases hparse : parseString (UdpClient.addressWithPort address port) <;> simp

/-- `try_connect` connects to the address and the port it was given exactly when the address
is IPv4, or the port is 0 and the address ends in groups of zeros after its `"::"`. -/
theorem connectsAsAsked_iff (parseString : String → Option SteamNetworkingIPAddr)
    (hparse : ∀ text : String, parseString text = documentedParse text.toList) (me : ι)
    (address : String) (port : UInt16) (result : Connection) (c : ClientContext ι)
    (hvalid : isValidIpAddress parseString address = true) (hport : CarriesNoPort address) :
    ConnectsAsAsked parseString me address port result c
      ↔ (ipv4 address.toList).isSome ∨ (port = 0 ∧ EndsInZeroGroups address.toList) := by
  obtain ⟨ip, hread, haddr⟩ := withoutPort_of_valid hparse hvalid hport
  rw [connectsAsAsked_iff_parse haddr, hparse, toList_addressWithPort]
  cases hipv6 : ipv6 address.toList with
  | none =>
    have hipv4 : ipv4 address.toList = some ip := by simpa [withoutPort, hipv6] using hread
    simp [documentedParse_join_of_ipv4 hipv4, hipv4]
  | some ip' =>
    have hip : ip' = ip := by simpa [withoutPort, hipv6] using hread
    subst hip
    have hipv4 : ipv4 address.toList = none := by
      cases hipv4 : ipv4 address.toList with
      | none => rfl
      | some _ => exact absurd hipv6 (by simp [ipv6_of_dot_mem (dot_mem_of_ipv4 hipv4)])
    rw [documentedParse_join_of_ipv6 hipv6, hipv4]
    by_cases hzero : port = 0
    · subst hzero
      rw [← ipv6_join_zero_iff hipv6]
      simp [Option.map_eq_some_iff]
    · -- no form without a port denotes a port other than 0
      have hother : (0 : UInt16) ≠ port := fun h => hzero h.symm
      simp [hzero, hother, Option.map_eq_some_iff]

/-- `127.0.0.1` on port 7000 is connected to, and so is `::0` on port 0. -/
theorem connectsAsAsked_localhost :
    ConnectsAsAsked (fun text => documentedParse text.toList) () "127.0.0.1" 7000 1
        { sInstance := none, self := {}, trace := [] }
      ∧ ConnectsAsAsked (fun text => documentedParse text.toList) () "::0" 0 1
        { sInstance := none, self := {}, trace := [] } := by
  constructor
  · apply (connectsAsAsked_iff _ (fun _ => rfl) () "127.0.0.1" 7000 1 _ (by decide)
      ⟨by decide, by decide⟩).mpr
    exact .inl (by decide)
  · apply (connectsAsAsked_iff _ (fun _ => rfl) () "::0" 0 1 _ (by decide)
      ⟨by decide, by decide⟩).mpr
    exact .inr ⟨rfl, [], [0], by decide, by simp, by simp, by simp⟩

/-- `::1` on port 7000 is joined to `::1:7000`, which is another address, on port 0. -/
theorem not_connectsAsAsked_loopback :
    ¬ ∀ parseString : String → Option SteamNetworkingIPAddr,
      (∀ text : String, parseString text = documentedParse text.toList) →
      ∀ (me : Unit) (address : String) (port : UInt16) (result : Connection)
        (c : ClientContext Unit), isValidIpAddress parseString address = true →
      CarriesNoPort address → ConnectsAsAsked parseString me address port result c := by
  intro h
  have hconnects := h (fun text => documentedParse text.toList) (fun _ => rfl) () "::1" 7000 1
    { sInstance := none, self := {}, trace := [] } (by decide) ⟨by decide, by decide⟩
  obtain ⟨addr, haddr, htrace⟩ := hconnects
  have hjoined := (connectsAsAsked_iff_parse haddr () 7000 1 _).mp ⟨addr, haddr, htrace⟩
  have hother : documentedParse (UdpClient.addressWithPort "::1" 7000).toList
      = some { ip := #v[0, 0, 0, 0, 0, 0, 0, 0, 0, 0, 0, 0, 0, 1, 0x70, 0], port := 0 } := by
    decide
  rw [hother] at hjoined
  have hport : (0 : UInt16) = 7000 := congrArg SteamNetworkingIPAddr.port (Option.some.inj hjoined)
  exact absurd hport (by decide)

end KbNetworking
