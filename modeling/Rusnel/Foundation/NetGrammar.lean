import Rusnel.Foundation.NetText
import Mathlib.Data.List.Induction
import Mathlib.Data.List.TakeWhile

/-!
# What the address parsers accept

The converse of printing: from what a parser accepts to the text it has read.
IPv4 addresses have one text only.  An IPv6 address has many; what they share is
their shape, pieces separated by colons around at most one `::`.  And a parser
that stops at a character it never reads is not affected by it.

Main results:

- Theorem {lit}`parseIpv4_eq_some`: the text of an IPv4 address is its printed
  form.
- Theorem {lit}`parseIpv6_pieces`: the shape of the text of an IPv6 address.
- Theorem {lit}`readIpv6Addr_stopsAt`: reading in front of a character that is not
  part of an address.
-/

namespace Net

open Text

/-! ## Numbers -/

/-- What a number reader has read. -/
structure ReadDigits (radix maxDigits max : Nat) (zero : Bool) (s : List Char) (n : Nat)
    (digits rest : List Char) : Prop where
  text : s = digits ++ rest
  nonempty : digits ≠ []
  length : digits.length ≤ maxDigits
  digit : ∀ c ∈ digits, (toDigit radix c).isSome
  stop : ∀ c ∈ rest.head?, toDigit radix c = none
  value : digits.foldl (fun acc c => acc * radix + (toDigit radix c).getD 0) 0 = n
  bound : n ≤ max
  zeroPrefix : zero = false → digits.head? = some '0' → digits.length = 1

theorem drop_length_takeWhile (p : Char → Bool) (s : List Char) :
    s.drop (s.takeWhile p).length = s.dropWhile p := by
  induction s with
  | nil => rfl
  | cons c s ih =>
      cases hc : p c with
      | true => simpa [hc] using ih
      | false => simp [hc]

theorem head?_dropWhile_stop (p : Char → Bool) (s : List Char) :
    ∀ c ∈ (s.dropWhile p).head?, p c = false := by
  intro c hc
  have h := List.head?_dropWhile_not p s
  rw [Option.mem_def.mp hc] at h
  exact h

theorem readNumber_eq_some {radix maxDigits max n : Nat} {zero : Bool} {s rest : List Char}
    (h : readNumber radix maxDigits max zero s = some (n, rest)) :
    ∃ digits, ReadDigits radix maxDigits max zero s n digits rest := by
  simp only [readNumber] at h
  split_ifs at h with hcount hzero hmax
  obtain ⟨hvalue, hrest⟩ := Prod.mk.inj (Option.some.inj h)
  rw [drop_length_takeWhile] at hrest
  subst hrest
  rw [not_or, Nat.not_lt] at hcount
  refine ⟨s.takeWhile fun c => (toDigit radix c).isSome,
    List.takeWhile_append_dropWhile.symm, ?_, hcount.2, ?_, ?_, hvalue, by omega, ?_⟩
  · rintro hnil
    simp [hnil] at hcount
  · intro c hc
    exact List.mem_takeWhile_imp (p := fun c => (toDigit radix c).isSome) hc
  · intro c hc
    simpa using head?_dropWhile_stop _ s c hc
  · rintro rfl hhead
    have hs : s.head? = some '0' := by
      cases s with
      | nil => simp at hhead
      | cons c s =>
          by_cases hc : (toDigit radix c).isSome = true
          · simpa [hc] using hhead
          · simp [hc] at hhead
    simp only [Bool.not_false, hs, BEq.rfl, Bool.and_self, Bool.true_and, decide_eq_true_eq,
      Nat.not_lt] at hzero
    omega

/-- A decimal digit is the character of its value. -/
theorem toDigit_eq_some {c : Char} {d : Nat} (h : toDigit 10 c = some d) :
    d < 10 ∧ c = d.digitChar := by
  have hchar : ∀ d : Fin 10, (Nat.digitChar d.val).toNat = 48 + d.val := by decide
  simp only [toDigit, Option.filter_eq_some_iff, decide_eq_true_eq] at h
  obtain ⟨hvalue, hd⟩ := h
  refine ⟨hd, ?_⟩
  have hnum : c.toNat = 48 + d := by
    split_ifs at hvalue with h0 ha hA
    · have hlow : 48 ≤ c.toNat := h0.1
      have heq : c.toNat - 48 = d := Option.some.inj hvalue
      omega
    · have heq : c.toNat - 97 + 10 = d := Option.some.inj hvalue
      omega
    · have heq : c.toNat - 65 + 10 = d := Option.some.inj hvalue
      omega
  exact Char.toNat_inj.mp (hnum.trans (hchar ⟨d, hd⟩).symm)

/-- Decimal digits without a superfluous zero in front are the printed form of
their value. -/
theorem toDigits_foldl {digits : List Char} (hne : digits ≠ [])
    (hdigit : ∀ c ∈ digits, (toDigit 10 c).isSome)
    (hzero : digits.head? = some '0' → digits.length = 1) :
    Nat.toDigits 10 (digits.foldl (fun acc c => acc * 10 + (toDigit 10 c).getD 0) 0)
      = digits := by
  induction digits using List.reverseRecOn with
  | nil => exact absurd rfl hne
  | append_singleton digits c ih =>
      obtain ⟨d, hd⟩ := Option.isSome_iff_exists.mp (hdigit c (by simp))
      obtain ⟨hlt, rfl⟩ := toDigit_eq_some hd
      rw [List.foldl_append, List.foldl_cons, List.foldl_nil, hd, Option.getD_some]
      by_cases hnil : digits = []
      · subst hnil
        simp [Nat.toDigits_of_lt_base hlt]
      · have hhead : digits.head? ≠ some '0' := by
          intro hhead
          have hone := hzero (by rw [List.head?_append_of_ne_nil _ hnil, hhead])
          have hpos := List.length_pos_iff.mpr hnil
          simp only [List.length_append, List.length_singleton] at hone
          omega
        have hprinted := ih hnil (fun c hc => hdigit c (by simp [hc])) fun h => absurd h hhead
        generalize digits.foldl (fun acc c => acc * 10 + (toDigit 10 c).getD 0) 0 = n at hprinted ⊢
        have hpos : n ≠ 0 := by
          rintro rfl
          rw [← hprinted] at hhead
          exact hhead rfl
        have hdiv : (n * 10 + d) / 10 = n := by omega
        have hmod : (n * 10 + d) % 10 = d := by omega
        rw [Nat.toDigits_of_base_le (by decide) (by omega), hdiv, hmod, hprinted]

/-! ## IPv4 -/

variable {s : List Char}

theorem readSeparator_eq_some {α : Type} {sep : Char} {index : Nat}
    {inner : List Char → Option (α × List Char)} {r : α × List Char} (hindex : index ≠ 0)
    (h : readSeparator sep index inner s = some r) :
    ∃ rest, s = sep :: rest ∧ inner rest = some r := by
  simp only [readSeparator, if_neg hindex] at h
  cases s with
  | nil => cases h
  | cons c rest =>
      dsimp only at h
      split_ifs at h with hc
      exact ⟨rest, by rw [hc], h⟩

/-- An octet has one text only. -/
theorem readOctet_eq_some {n : Nat} {s rest : List Char}
    (h : readNumber 10 3 255 false s = some (n, rest)) :
    s = Nat.toDigits 10 (UInt8.ofNat n).toNat ++ rest ∧
      ∀ c ∈ rest.head?, toDigit 10 c = none := by
  obtain ⟨digits, hread⟩ := readNumber_eq_some h
  have hprinted := toDigits_foldl hread.nonempty hread.digit (hread.zeroPrefix rfl)
  have hn : (UInt8.ofNat n).toNat = n := by
    have hbound := hread.bound
    rw [UInt8.toNat_ofNat']
    omega
  rw [hread.value] at hprinted
  rw [hn, hprinted]
  exact ⟨hread.text, hread.stop⟩

/-- What is read as an IPv4 address is its printed form. -/
theorem readIpv4Addr_eq_some {ip : Ipv4Addr} {s rest : List Char}
    (h : readIpv4Addr s = some (ip, rest)) :
    s = ip.display ++ rest ∧ ∀ c ∈ rest.head?, toDigit 10 c = none := by
  simp only [readIpv4Addr, bind, Option.bind_eq_some_iff, Prod.exists, pure,
    Option.some.injEq, Prod.mk.injEq] at h
  obtain ⟨a, s₁, ha, b, s₂, hb, c, s₃, hc, d, s₄, hd, rfl, rfl⟩ := h
  obtain ⟨t₁, rfl, hb⟩ := readSeparator_eq_some (by decide) hb
  obtain ⟨t₂, rfl, hc⟩ := readSeparator_eq_some (by decide) hc
  obtain ⟨t₃, rfl, hd⟩ := readSeparator_eq_some (by decide) hd
  simp only [readSeparator, if_true] at ha
  obtain ⟨rfl, -⟩ := readOctet_eq_some ha
  obtain ⟨rfl, -⟩ := readOctet_eq_some hb
  obtain ⟨rfl, -⟩ := readOctet_eq_some hc
  obtain ⟨rfl, hstop⟩ := readOctet_eq_some hd
  refine ⟨?_, hstop⟩
  simp only [Ipv4Addr.display, List.append_assoc, List.cons_append]

theorem parseWith_eq_some {α : Type} {inner : List Char → Option (α × List Char)} {a : α} :
    parseWith inner s = some a ↔ inner s = some (a, []) := by
  unfold parseWith
  split
  · rename_i value heq
    simp [heq]
  · rename_i hne
    constructor
    · intro h
      cases h
    · intro h
      exact absurd h (hne a)

/-- The text of an IPv4 address is its printed form. -/
theorem parseIpv4_eq_some {ip : Ipv4Addr} : parseIpv4 s = some ip ↔ s = ip.display := by
  constructor
  · intro h
    have hread := (readIpv4Addr_eq_some (parseWith_eq_some.mp h)).1
    rwa [List.append_nil] at hread
  · rintro rfl
    exact parseIpv4_display ip

/-- An address of either family is parsed as one of its own family. -/
theorem parseIpAddr_eq_some {ip : IpAddr} :
    parseIpAddr s = some ip ↔
      match ip with
      | .v4 ip => parseIpv4 s = some ip
      | .v6 ip => parseIpv6 s = some ip := by
  rw [parseIpAddr, parseWith_eq_some]
  cases hread : readIpv4Addr s with
  | none =>
      cases ip with
      | v4 ip => simp [parseIpv4, parseWith_eq_some, hread]
      | v6 ip => simp [parseIpv6, parseWith_eq_some]
  | some r =>
      cases ip with
      | v4 ip => simp [parseIpv4, parseWith_eq_some, hread, Prod.ext_iff]
      | v6 ip => simp [parseIpv6, parseWith_eq_some, readIpv6Addr_of_ipv4 hread]

theorem parseIpAddr_v4 {ip : Ipv4Addr} (h : parseIpv4 s = some ip) :
    parseIpAddr s = some (.v4 ip) :=
  parseIpAddr_eq_some.mpr h

theorem parseIpAddr_v6 {ip : Ipv6Addr} (h : parseIpv6 s = some ip) :
    parseIpAddr s = some (.v6 ip) :=
  parseIpAddr_eq_some.mpr h

/-! ## Stopping in front of another character -/

/-- The reader reads in front of the character as at the end of the text. -/
def StopsAt {α : Type} (stop : Char) (read : List Char → Option (α × List Char)) : Prop :=
  ∀ s t, read (s ++ stop :: t) = (read s).map fun r => (r.1, r.2 ++ stop :: t)

theorem toDigit_none_of_le {radix radix' : Nat} (hle : radix ≤ radix') {c : Char}
    (h : toDigit radix' c = none) : toDigit radix c = none := by
  simp only [toDigit, Option.filter_eq_none_iff, decide_eq_true_eq] at h ⊢
  intro d hd hlt
  exact h d hd (hlt.trans_le hle)

theorem isSome_toDigit_of_le {radix radix' : Nat} (hle : radix ≤ radix') {c : Char}
    (h : (toDigit radix c).isSome) : (toDigit radix' c).isSome := by
  by_contra hnone
  rw [Option.not_isSome_iff_eq_none] at hnone
  rw [toDigit_none_of_le hle hnone] at h
  cases h

variable {stop : Char}

theorem takeWhile_stop (p : Char → Bool) (hstop : p stop = false) (s t : List Char) :
    (s ++ stop :: t).takeWhile p = s.takeWhile p := by
  induction s with
  | nil => simp [hstop]
  | cons c s ih => simp only [List.cons_append, List.takeWhile_cons, ih]

theorem readNumber_stopsAt {radix maxDigits max : Nat} {zero : Bool}
    (hstop : toDigit radix stop = none) : StopsAt stop (readNumber radix maxDigits max zero) := by
  intro s t
  cases s with
  | nil => simp [readNumber, hstop]
  | cons c s =>
      have hnone : (toDigit radix stop).isSome = false := by rw [hstop, Option.isSome_none]
      have hdigits := takeWhile_stop (fun c => (toDigit radix c).isSome) hnone (c :: s) t
      have hhead : (c :: s ++ stop :: t).head? = (c :: s).head? := rfl
      have hlen := (List.takeWhile_sublist (l := c :: s)
        fun c => (toDigit radix c).isSome).length_le
      simp only [readNumber, hdigits, hhead]
      split_ifs
      · rfl
      · rfl
      · rfl
      · rw [Option.map_some, List.drop_append_of_le_length hlen]

theorem readSeparator_stopsAt {α : Type} {sep stop : Char} (hne : stop ≠ sep) (index : Nat)
    {inner : List Char → Option (α × List Char)} (hinner : StopsAt stop inner) :
    StopsAt stop (readSeparator sep index inner) := by
  intro s t
  by_cases hindex : index = 0
  · simp only [readSeparator, if_pos hindex]
    exact hinner s t
  · cases s with
    | nil => simp [readSeparator, hindex, hne]
    | cons c s =>
        simp only [readSeparator, if_neg hindex, List.cons_append]
        split_ifs
        · exact hinner s t
        · rfl

theorem StopsAt.bind {α β : Type} {read : List Char → Option (α × List Char)}
    {next : α → List Char → Option (β × List Char)} (hread : StopsAt stop read)
    (hnext : ∀ a, StopsAt stop (next a)) :
    StopsAt stop fun s => (read s).bind fun r => next r.1 r.2 := by
  intro s t
  simp only [hread s t]
  cases read s with
  | none => rfl
  | some r => exact hnext r.1 r.2 t

theorem readIpv4Addr_stopsAt (hdigit : toDigit 10 stop = none) (hdot : stop ≠ '.') :
    StopsAt stop readIpv4Addr := by
  have hoctet : ∀ index, StopsAt stop (readSeparator '.' index (readNumber 10 3 255 false)) :=
    fun index => readSeparator_stopsAt hdot index (readNumber_stopsAt hdigit)
  have hpure : ∀ ip : Ipv4Addr, StopsAt stop fun s => some (ip, s) := fun ip s t => rfl
  exact (hoctet 0).bind fun a => (hoctet 1).bind fun b => (hoctet 2).bind fun c =>
    (hoctet 3).bind fun d => hpure ⟨.ofNat a, .ofNat b, .ofNat c, .ofNat d⟩

theorem readGroups_stop (hdigit : toDigit 16 stop = none) (hcolon : stop ≠ ':') (hdot : stop ≠ '.')
    (limit left : Nat) (s t : List Char) :
    readGroups limit left (s ++ stop :: t) =
      ((readGroups limit left s).1, (readGroups limit left s).2.1,
        (readGroups limit left s).2.2 ++ stop :: t) := by
  have hdigit10 : toDigit 10 stop = none := toDigit_none_of_le (by decide) hdigit
  induction left generalizing s with
  | zero => rfl
  | succ left ih =>
      have hv4 := readSeparator_stopsAt hcolon (limit - (left + 1))
        (readIpv4Addr_stopsAt hdigit10 hdot) s t
      have hnumber : StopsAt stop (readNumber 16 4 65535 true) := readNumber_stopsAt hdigit
      have hgroup := readSeparator_stopsAt hcolon (limit - (left + 1)) hnumber s t
      have hembedded : (if limit - (left + 1) < limit - 1 then
            readSeparator ':' (limit - (left + 1)) readIpv4Addr (s ++ stop :: t) else none)
          = (if limit - (left + 1) < limit - 1 then
              readSeparator ':' (limit - (left + 1)) readIpv4Addr s else none).map
            fun r => (r.1, r.2 ++ stop :: t) := by
        split_ifs
        · exact hv4
        · rfl
      simp only [readGroups, hembedded, hgroup]
      cases (if limit - (left + 1) < limit - 1 then
        readSeparator ':' (limit - (left + 1)) readIpv4Addr s else none) with
      | some r => rfl
      | none =>
          cases readSeparator ':' (limit - (left + 1)) (readNumber 16 4 65535 true) s with
          | none => rfl
          | some r => simp only [Option.map_none, Option.map_some, ih]

/-- An IPv6 address is read in front of a character that is not part of one. -/
theorem readIpv6Addr_stopsAt (hdigit : toDigit 16 stop = none) (hcolon : stop ≠ ':')
    (hdot : stop ≠ '.') : StopsAt stop readIpv6Addr := by
  intro s t
  have hhead := readGroups_stop hdigit hcolon hdot 8 8 s t
  simp only [readIpv6Addr, hhead]
  obtain ⟨head, headV4, rest⟩ := readGroups 8 8 s
  dsimp only
  have hmap : ∀ (ip : Option Ipv6Addr) (rest : List Char),
      ip.map (fun ip => (ip, rest ++ stop :: t))
        = (ip.map fun ip => (ip, rest)).map fun r => (r.1, r.2 ++ stop :: t) := by
    intro ip rest
    cases ip <;> rfl
  split_ifs
  · exact hmap _ rest
  · rfl
  · rcases rest with _ | ⟨c, _ | ⟨c', rest⟩⟩
    · simp [hcolon]
    · simp [hcolon]
    · by_cases hc : c = ':'
      · by_cases hc' : c' = ':'
        · subst hc hc'
          simp only [List.cons_append, readGroups_stop hdigit hcolon hdot]
          exact hmap _ _
        · simp [hc']
      · simp [hc]

/-! ## The text of an IPv6 address -/

/-- The characters of a group. -/
def HexPiece (piece : List Char) : Prop :=
  ∀ c ∈ piece, (toDigit 16 c).isSome

/-- The characters of a group or of an embedded IPv4 address. -/
def AddrPiece (piece : List Char) : Prop :=
  ∀ c ∈ piece, (toDigit 16 c).isSome ∨ c = '.'

variable {piece : List Char}

theorem HexPiece.addrPiece (h : HexPiece piece) : AddrPiece piece :=
  fun c hc => .inl (h c hc)

/-- Decimal digits are digits of a group. -/
theorem HexPiece.of_decimal (h : ∀ c ∈ piece, (toDigit 10 c).isSome) : HexPiece piece :=
  fun c hc => isSome_toDigit_of_le (by decide) (h c hc)

theorem Ipv4Addr.addrPiece_display (ip : Ipv4Addr) : AddrPiece ip.display := by
  have hoctet : ∀ (n : Nat), AddrPiece (Nat.toDigits 10 n) := fun n =>
    (HexPiece.of_decimal (isSome_toDigit_of_mem (by decide) (by decide) n)).addrPiece
  intro c hc
  simp only [display, List.mem_append, List.mem_cons] at hc
  rcases hc with h | rfl | h | rfl | h | rfl | h
  · exact hoctet _ c h
  · exact .inr rfl
  · exact hoctet _ c h
  · exact .inr rfl
  · exact hoctet _ c h
  · exact .inr rfl
  · exact hoctet _ c h

theorem AddrPiece.colon (h : AddrPiece piece) : ':' ∉ piece := by
  intro hmem
  rcases h _ hmem with hdigit | hdot
  · exact absurd hdigit (by decide)
  · exact absurd hdot (by decide)

/-- Pieces with a colon in front of each, but for the first one of a text. -/
def joinPieces (first : Bool) (pieces : List (List Char)) : List Char :=
  if first then [':'].intercalate pieces else pieces.flatMap (':' :: ·)

theorem intercalate_cons (piece : List Char) (pieces : List (List Char)) :
    [':'].intercalate (piece :: pieces) = piece ++ pieces.flatMap (':' :: ·) := by
  induction pieces generalizing piece with
  | nil => simp
  | cons next pieces ih => simp [List.intercalate_cons_cons, ih]

theorem joinPieces_cons (first : Bool) (piece : List Char) (pieces : List (List Char)) :
    joinPieces first (piece :: pieces)
      = (if first then piece else ':' :: piece) ++ joinPieces false pieces := by
  cases first <;> simp [joinPieces, intercalate_cons]

/-- What a reader of groups has read: pieces, all but the last one groups. -/
structure ReadPieces (first v4 : Bool) (s : List Char) (groups : List UInt16)
    (pieces : List (List Char)) (rest : List Char) : Prop where
  text : s = joinPieces first pieces ++ rest
  length : groups.length ≤ pieces.length + 1
  piece : ∀ p ∈ pieces, AddrPiece p
  init : ∀ p ∈ pieces.dropLast, HexPiece p
  hex : v4 = false → ∀ p ∈ pieces, HexPiece p

theorem readSeparator_text {α : Type} {index : Nat} {inner : List Char → Option (α × List Char)}
    {r : α × List Char} (h : readSeparator ':' index inner s = some r) :
    ∃ t, s = (if decide (index = 0) then t else ':' :: t) ∧ inner t = some r := by
  by_cases hindex : index = 0
  · refine ⟨s, by simp [hindex], ?_⟩
    simpa only [readSeparator, if_pos hindex] using h
  · obtain ⟨t, rfl, ht⟩ := readSeparator_eq_some hindex h
    exact ⟨t, by simp [hindex], ht⟩

theorem ReadPieces.nil (first : Bool) (s : List Char) : ReadPieces first false s [] [] s where
  text := by cases first <;> rfl
  length := by simp
  piece := by simp
  init := by simp
  hex := by simp

/-- An embedded IPv4 address ends the groups. -/
theorem ReadPieces.embedded (first : Bool) (ip : Ipv4Addr) (rest : List Char) {groups : List UInt16}
    (hgroups : groups.length = 2) :
    ReadPieces first true (if first then ip.display ++ rest else ':' :: (ip.display ++ rest))
      groups [ip.display] rest where
  text := by
    rw [joinPieces_cons]
    split_ifs <;> simp [joinPieces]
  length := by simp [hgroups]
  piece := by
    intro p hp
    rw [List.mem_singleton.mp hp]
    exact ip.addrPiece_display
  init := by simp
  hex := by simp

/-- A group in front of the pieces that follow it. -/
theorem ReadPieces.cons (first : Bool) {v4 : Bool} {digits s rest : List Char} (group : UInt16)
    {groups : List UInt16} {pieces : List (List Char)} (hhex : HexPiece digits)
    (h : ReadPieces false v4 s groups pieces rest) :
    ReadPieces first v4 (if first then digits ++ s else ':' :: (digits ++ s))
      (group :: groups) (digits :: pieces) rest where
  text := by
    rw [joinPieces_cons, List.append_assoc, ← h.text]
    split_ifs <;> rfl
  length := by simpa using h.length
  piece := List.forall_mem_cons.mpr ⟨hhex.addrPiece, h.piece⟩
  init := by
    intro p hp
    cases pieces with
    | nil => simp at hp
    | cons next pieces =>
        rcases List.mem_cons.mp hp with rfl | hp
        · exact hhex
        · exact h.init p hp
  hex := fun hv4 => List.forall_mem_cons.mpr ⟨hhex, h.hex hv4⟩

theorem readGroups_pieces {limit left : Nat} (hleft : left ≤ limit) (s : List Char) :
    ∃ pieces, ReadPieces (decide (left = limit)) (readGroups limit left s).2.1 s
      (readGroups limit left s).1 pieces (readGroups limit left s).2.2 := by
  induction left generalizing s with
  | zero => exact ⟨[], .nil _ s⟩
  | succ left ih =>
      have hindex : decide (left + 1 = limit) = decide (limit - (left + 1) = 0) := by
        rw [decide_eq_decide]
        omega
      have hnext : decide (left = limit) = false := by
        rw [decide_eq_false_iff_not]
        omega
      rw [hindex]
      simp only [readGroups]
      split
      · rename_i ip rest hembedded
        split_ifs at hembedded
        obtain ⟨t, rfl, ht⟩ := readSeparator_text hembedded
        obtain ⟨rfl, -⟩ := readIpv4Addr_eq_some ht
        exact ⟨_, .embedded _ ip rest rfl⟩
      · split
        · rename_i group rest hgroup
          obtain ⟨t, rfl, ht⟩ := readSeparator_text hgroup
          obtain ⟨digits, hdigits⟩ := readNumber_eq_some ht
          obtain ⟨pieces, hpieces⟩ := ih (by omega) rest
          rw [hnext] at hpieces
          have hhex : HexPiece digits := hdigits.digit
          have htext := hdigits.text
          subst htext
          exact ⟨_, .cons _ _ hhex hpieces⟩
        · exact ⟨[], .nil _ s⟩

/-- The text of an IPv6 address: pieces separated by colons, the first one a
group or empty; at least five of them, or an empty one between others. -/
structure Ipv6Text (first : List Char) (pieces : List (List Char)) : Prop where
  first : HexPiece first
  piece : ∀ p ∈ pieces, AddrPiece p
  shape : 4 ≤ pieces.length ∨ ∃ head tail, tail ≠ [] ∧ pieces = head ++ [] :: tail

theorem AddrPiece.nil : AddrPiece [] := fun _ hc => absurd hc List.not_mem_nil

/-- The pieces behind an elision; the last one is empty if nothing follows. -/
theorem exists_tail_pieces {tail : List (List Char)} (htail : ∀ p ∈ tail, AddrPiece p) :
    ∃ pieces, pieces ≠ [] ∧ pieces.flatMap (':' :: ·) = ':' :: [':'].intercalate tail ∧
      ∀ p ∈ pieces, AddrPiece p := by
  cases tail with
  | nil => exact ⟨[[]], by simp, by simp [List.intercalate], by simpa using AddrPiece.nil⟩
  | cons piece pieces => exact ⟨piece :: pieces, by simp, by simp [intercalate_cons], htail⟩

/-- Pieces around an elision. -/
theorem Ipv6Text.elided {head tail : List (List Char)} (hhead : ∀ p ∈ head, HexPiece p)
    (htail : ∀ p ∈ tail, AddrPiece p) :
    ∃ first pieces, [':'].intercalate head ++ ':' :: ':' :: [':'].intercalate tail
      = [':'].intercalate (first :: pieces) ∧ Ipv6Text first pieces := by
  obtain ⟨after, hne, hafter, hpiece⟩ := exists_tail_pieces htail
  cases head with
  | nil =>
      refine ⟨[], [] :: after, ?_, fun _ hc => absurd hc List.not_mem_nil,
        List.forall_mem_cons.mpr ⟨.nil, hpiece⟩, .inr ⟨[], after, hne, rfl⟩⟩
      rw [intercalate_cons, List.flatMap_cons, hafter]
      simp [List.intercalate]
  | cons first head =>
      refine ⟨first, head ++ [] :: after, ?_, hhead first List.mem_cons_self, ?_,
        .inr ⟨head, after, hne, rfl⟩⟩
      · rw [intercalate_cons, intercalate_cons, List.flatMap_append, List.flatMap_cons, hafter]
        simp
      · intro p hp
        rcases List.mem_append.mp hp with hp | hp
        · exact (hhead p (List.mem_cons_of_mem _ hp)).addrPiece
        · exact List.forall_mem_cons.mpr ⟨.nil, hpiece⟩ p hp

theorem parseIpv6_pieces {ip : Ipv6Addr} (h : parseIpv6 s = some ip) :
    ∃ first pieces, s = [':'].intercalate (first :: pieces) ∧ Ipv6Text first pieces := by
  have hread := parseWith_eq_some.mp h
  obtain ⟨head, hhead⟩ := readGroups_pieces (Nat.le_refl 8) s
  simp only [readIpv6Addr] at hread
  generalize readGroups 8 8 s = r at hread hhead
  obtain ⟨groups, v4, rest⟩ := r
  have htext := hhead.text
  simp only [decide_true, joinPieces, if_true] at htext
  dsimp only at hread
  split_ifs at hread with hfull hv4
  · -- eight groups, of which at most two are one piece
    obtain ⟨-, -, -, rfl⟩ := Option.map_eq_some_iff.mp hread
    have hlen := hhead.length
    dsimp only at hlen
    rw [List.append_nil] at htext
    rcases head with _ | ⟨first, _ | ⟨next, pieces⟩⟩
    · simp at hlen
      omega
    · simp at hlen
      omega
    · refine ⟨first, next :: pieces, htext, hhead.init first (by simp),
        fun p hp => hhead.piece p (List.mem_cons_of_mem _ hp), .inl ?_⟩
      simp only [List.length_cons] at hlen ⊢
      omega
  · split at hread
    · rename_i after
      obtain ⟨tail, htail⟩ := readGroups_pieces (Nat.le_refl (8 - (groups.length + 1))) after
      obtain ⟨_, -, hrest⟩ := Option.map_eq_some_iff.mp hread
      have hafter := htail.text
      simp only [decide_true, joinPieces, if_true, (Prod.mk.inj hrest).2, List.append_nil]
        at hafter
      rw [hafter] at htext
      rw [htext]
      exact Ipv6Text.elided (hhead.hex (by simpa using hv4)) htail.piece
    · cases hread

/-- The characters of an IPv6 address. -/
theorem mem_of_parseIpv6 {ip : Ipv6Addr} (h : parseIpv6 s = some ip) :
    ∀ c ∈ s, (toDigit 16 c).isSome ∨ c = '.' ∨ c = ':' := by
  obtain ⟨first, pieces, rfl, htext⟩ := parseIpv6_pieces h
  intro c hc
  rw [intercalate_cons, List.mem_append, List.mem_flatMap] at hc
  rcases hc with hc | ⟨piece, hpiece, hc⟩
  · exact .inl (htext.first c hc)
  · rcases List.mem_cons.mp hc with rfl | hc
    · exact .inr (.inr rfl)
    · exact (htext.piece piece hpiece c hc).imp id .inl

theorem colon_mem_of_parseIpv6 {ip : Ipv6Addr} (h : parseIpv6 s = some ip) : ':' ∈ s := by
  obtain ⟨first, pieces, rfl, htext⟩ := parseIpv6_pieces h
  rw [intercalate_cons, List.mem_append, List.mem_flatMap]
  cases pieces with
  | nil => rcases htext.shape with hlen | ⟨head, tail, -, hnil⟩ <;> simp at *
  | cons piece pieces => exact .inr ⟨piece, by simp, by simp⟩

/-- A single group is no address. -/
theorem HexPiece.parseIpAddr (h : HexPiece piece) : parseIpAddr piece = none := by
  rw [Option.eq_none_iff_forall_ne_some]
  intro ip hip
  have hparse := parseIpAddr_eq_some.mp hip
  cases ip with
  | v4 ip =>
      rw [parseIpv4_eq_some.mp hparse] at h
      exact absurd (h '.' (by simp [Ipv4Addr.display])) (by decide)
  | v6 ip => exact absurd (h ':' (colon_mem_of_parseIpv6 hparse)) (by decide)

end Net
