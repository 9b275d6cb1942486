import Mathlib.Data.List.DropRight
import Mathlib.Data.List.Basic

/-!
Client names and the two cleaning loops that registration and unregistration
run over them. The loops index with an `int` and compare plain `char` values,
whose sign the platform decides. They look at the first `scanned` positions of a
name, which are all of them unless its length leaves the range of an `int`, and
drop the longest run of padding from the end of these and then from the
beginning (`clean_eq_stripName`). So cleaning twice is cleaning once
(`clean_idempotent`), and exactly the blank names clean to nothing
(`clean_eq_nil_iff`). Padding is what is not above 32 as a plain `char`, so the
platforms clean a name alike exactly when what is left of it unsigned has an ASCII
character at both ends (`cleans_padding_iff`).
-/
namespace LifecycleMgr

/-- A client's name: any string of bytes. -/
abbrev ClientName := List UInt8

/-- The bytes of a string literal, without the zero behind them. -/
def bytes (literal : String) : List UInt8 := literal.toList.map (fun c => c.toNat.toUInt8)

/-- Two names to run examples on. -/
def clientA : ClientName := [97]

@[inherit_doc clientA]
def clientB : ClientName := [98]

/-- A byte as a plain `char`, signed or unsigned. -/
def charValue (signed : Bool) (b : UInt8) : Int :=
  if signed ∧ 128 ≤ b.toNat then (b.toNat : Int) - 256 else b.toNat

/-- `(int)name.length()`: the low 32 bits in two's complement. -/
def intOfSize (n : Nat) : Int :=
  if n % 0x100000000 < 0x80000000 then (n % 0x100000000 : Nat) else (n % 0x100000000 : Nat) - 0x100000000

/-- How many positions the loops look at. -/
def scanned (name : List UInt8) : Nat := (intOfSize name.length).toNat

/-- `cleanEnd name cnt` is the loop from the end of the string with `cnt` positions
    left to look at; `name[cnt]` past the end reads the terminating 0. -/
def cleanEnd (signed : Bool) (name : List UInt8) : Nat → List UInt8
  | 0 => name
  | cnt+1 =>
    if charValue signed (name.getD cnt 0) ≤ 32 then cleanEnd signed (name.eraseIdx cnt) cnt
    else name

/-- The loop from the beginning: the string from its first character above 32, if there is one. -/
def cleanBeginning (signed : Bool) (name : List UInt8) : List UInt8 :=
  match (List.range (scanned name)).find? (fun cnt => 32 < charValue signed (name.getD cnt 0)) with
  | some cnt => name.drop cnt
  | none => []

/-- Both loops, as `evaluate_RegisterClient` and `LC_UnRegisterClient` run them. -/
def cleanClientName (signed : Bool) (name : ClientName) : ClientName :=
  cleanBeginning signed (cleanEnd signed name (scanned name))

/-- A `const char*` as a string: what stands before the first 0. -/
def cString (name : ClientName) : ClientName := name.takeWhile (fun b => b != 0)

/-! ### What cleaning does -/

/-- A byte that the loops drop. -/
def padding (signed : Bool) (b : UInt8) : Bool := decide (charValue signed b ≤ 32)

/-- A string without the padding at its ends. -/
def strip (signed : Bool) (name : List UInt8) : List UInt8 :=
  (name.rdropWhile (padding signed)).dropWhile (padding signed)

/-- A name without the padding at the ends of its scanned part; nothing if that is all padding. -/
def stripName (signed : Bool) (name : ClientName) : ClientName :=
  if strip signed (name.take (scanned name)) = [] then []
  else strip signed (name.take (scanned name)) ++ name.drop (scanned name)

/-- The scanned part of the name is all padding. -/
def Blank (signed : Bool) (name : ClientName) : Prop := ∀ b ∈ name.take (scanned name), padding signed b = true

section
variable {signed : Bool}

/-- A name whose length fits an `int` is scanned to its end. -/
theorem scanned_of_fits {name : ClientName} (fits : name.length < 0x80000000) : scanned name = name.length := by
  have low : name.length % 0x100000000 = name.length := Nat.mod_eq_of_lt (by omega)
  rw [scanned,intOfSize,low,if_pos fits,Int.toNat_natCast]

/-- A scanned part is in the range of an `int`, and what follows a nonempty one fills whole turns of 32 bits. -/
theorem scanned_spec (name : ClientName) : scanned name < 0x80000000 ∧ scanned name ≤ name.length ∧
    (0 < scanned name → (name.drop (scanned name)).length % 0x100000000 = 0) := by
  rw [List.length_drop]
  unfold scanned intOfSize
  split <;> omega

private theorem scanned_append {front back : List UInt8} (small : front.length < 0x80000000)
    (turns : back.length % 0x100000000 = 0) : scanned (front ++ back) = front.length := by
  have low : (front ++ back).length % 0x100000000 = front.length := by
    rw [List.length_append]
    omega
  rw [scanned,intOfSize,low,if_pos small,Int.toNat_natCast]

private theorem cleanEnd_eq (front back : List UInt8) :
    cleanEnd signed (front ++ back) front.length = front.rdropWhile (padding signed) ++ back := by
  induction front using List.reverseRecOn with
  | nil => rfl
  | append_singleton front last ih =>
    have here : (front ++ [last] ++ back).getD front.length 0 = last := by simp
    have erased : (front ++ [last] ++ back).eraseIdx front.length = front ++ back := by
      rw [List.append_assoc,List.eraseIdx_append_of_length_le (Nat.le_refl _)]
      simp
    rw [List.length_append,List.length_singleton,cleanEnd,here,erased]
    by_cases small : charValue signed last ≤ 32
    · rw [if_pos small,ih,List.rdropWhile_concat_pos _ _ _ (by simpa [padding] using small)]
    · rw [if_neg small,List.rdropWhile_concat_neg _ _ _ (by simpa [padding] using small)]

private theorem first_kept (front back : List UInt8) :
    (match (List.range front.length).find? (fun cnt => 32 < charValue signed ((front ++ back).getD cnt 0)) with
      | some cnt => (front ++ back).drop cnt
      | none => []) =
    if front.dropWhile (padding signed) = [] then [] else front.dropWhile (padding signed) ++ back := by
  induction front with
  | nil => rfl
  | cons b rest ih =>
    rw [List.length_cons,List.range_succ_eq_map,List.find?_cons]
    by_cases small : charValue signed b ≤ 32
    · have shifted : (fun cnt : Nat => decide (32 < charValue signed ((b :: rest ++ back).getD cnt 0))) ∘ Nat.succ =
          fun cnt => decide (32 < charValue signed ((rest ++ back).getD cnt 0)) := by
        funext cnt; simp
      have first : (b :: rest ++ back).getD 0 0 = b := rfl
      rw [List.dropWhile_cons_of_pos (by simpa [padding] using small),← ih]
      simp only [first,Int.not_lt.mpr small,decide_false,List.find?_map,shifted]
      cases (List.range rest.length).find? (fun cnt => decide (32 < charValue signed ((rest ++ back).getD cnt 0))) with
      | none => rfl
      | some cnt => rfl
    · have large : 32 < charValue signed b := Int.not_le.mp small
      rw [List.dropWhile_cons_of_neg (by simpa [padding] using small)]
      simp [large]

/-- Cleaning drops the longest run of padding at the end of the scanned part, and then at its beginning. -/
theorem clean_eq_stripName (name : ClientName) : cleanClientName signed name = stripName signed name := by
  obtain ⟨small,inside,turns⟩ := scanned_spec name
  have parts : name.take (scanned name) ++ name.drop (scanned name) = name := List.take_append_drop _ _
  have length : (name.take (scanned name)).length = scanned name := List.length_take_of_le inside
  have ended : cleanEnd signed name (scanned name) =
      (name.take (scanned name)).rdropWhile (padding signed) ++ name.drop (scanned name) := by
    have general := @cleanEnd_eq signed (name.take (scanned name)) (name.drop (scanned name))
    rwa [parts,length] at general
  rw [cleanClientName,ended,cleanBeginning]
  rcases Nat.eq_zero_or_pos (scanned name) with unscanned | positive
  · simp only [unscanned,List.take_zero,List.drop_zero,stripName]
    rw [show scanned ([].rdropWhile (padding signed) ++ name) = 0 from unscanned]
    rfl
  · have shorter := (List.rdropWhile_prefix (padding signed) (name.take (scanned name))).length_le
    rw [scanned_append (by omega) (turns positive)]
    exact first_kept _ _

theorem clean_eq_nil_iff (name : ClientName) : cleanClientName signed name = [] ↔ Blank signed name := by
  rw [clean_eq_stripName,Blank,stripName]
  have stripped : strip signed (name.take (scanned name)) = [] ↔
      ∀ b ∈ name.take (scanned name), padding signed b = true := by
    rw [strip,List.dropWhile_eq_nil_iff]
    constructor
    · intro all
      have kept : (name.take (scanned name)).rdropWhile (padding signed) = [] := by
        by_contra nonempty
        exact List.rdropWhile_last_not _ _ nonempty (all _ (List.getLast_mem nonempty))
      exact (List.rdropWhile_eq_nil_iff).mp kept
    · intro all b member
      exact all b ((List.rdropWhile_prefix _ _).subset member)
  rw [← stripped]
  constructor
  · intro empty
    by_contra nonempty
    rw [if_neg nonempty] at empty
    exact nonempty (List.append_eq_nil_iff.mp empty).1
  · intro empty
    rw [if_pos empty]

/-- Stripping leaves what stands between the longest runs of padding at the ends: what it leaves neither
    begins nor ends with padding, and only padding stands around it. -/
theorem strip_eq_iff (name kept : List UInt8) : strip signed name = kept ↔
    ∃ front back, name = front ++ kept ++ back ∧ (∀ b ∈ front, padding signed b = true) ∧
      (∀ b ∈ back, padding signed b = true) ∧ (∀ b ∈ kept.head?, padding signed b = false) ∧
      ∀ b ∈ kept.getLast?, padding signed b = false := by
  constructor
  · rintro rfl
    set begun := name.rdropWhile (padding signed) with begunIs
    have parts : begun.takeWhile (padding signed) ++ strip signed name = begun := List.takeWhile_append_dropWhile
    refine ⟨begun.takeWhile (padding signed),name.rtakeWhile (padding signed),?_,?_,?_,?_,?_⟩
    · rw [parts]
      exact List.rdropWhile_append_rtakeWhile.symm
    · exact fun b member => List.mem_takeWhile_imp member
    · exact fun b member => List.mem_rtakeWhile_imp member
    · intro b first
      have stopped := List.head?_dropWhile_not (padding signed) begun
      rw [show (begun.dropWhile (padding signed)).head? = some b from first] at stopped
      exact stopped
    · intro b last
      have nonempty : strip signed name ≠ [] := fun empty => by rw [empty] at last; cases last
      have begunNonempty : begun ≠ [] := fun empty => nonempty (by rw [strip,← begunIs,empty]; rfl)
      have suffix : strip signed name <:+ begun := List.dropWhile_suffix (padding signed)
      rw [List.getLast?_eq_some_getLast nonempty,Option.mem_some_iff,suffix.getLast nonempty] at last
      rw [← last]
      exact Bool.eq_false_iff.mpr (List.rdropWhile_last_not _ _ begunNonempty)
  · rintro ⟨front,back,rfl,allFront,allBack,first,last⟩
    cases kept with
    | nil =>
      have all : ∀ b ∈ front ++ [] ++ back, padding signed b = true := by
        intro b member
        rw [List.append_nil,List.mem_append] at member
        rcases member with inFront | inBack
        · exact allFront b inFront
        · exact allBack b inBack
      rw [strip,List.rdropWhile_eq_nil_iff.mpr all]; rfl
    | cons b rest =>
      have ended : (front ++ b :: rest ++ back).rdropWhile (padding signed) = front ++ b :: rest := by
        rw [List.rdropWhile,List.reverse_append,
          List.dropWhile_append_of_pos (fun c member => allBack c (List.mem_reverse.mp member))]
        show (front ++ b :: rest).rdropWhile (padding signed) = front ++ b :: rest
        rw [List.rdropWhile_eq_self_iff]
        intro nonempty
        rw [List.getLast_append_of_ne_nil nonempty (List.cons_ne_nil b rest),
          last _ (List.getLast?_eq_some_getLast (List.cons_ne_nil b rest))]
        exact Bool.false_ne_true
      have begins : ¬ padding signed b = true := by
        rw [first b rfl]
        exact Bool.false_ne_true
      rw [strip,ended,List.dropWhile_append_of_pos allFront,List.dropWhile_cons_of_neg begins]

private theorem strip_idempotent (name : List UInt8) : strip signed (strip signed name) = strip signed name := by
  obtain ⟨front,back,_,_,_,first,last⟩ := (strip_eq_iff name (strip signed name)).mp rfl
  have alone : strip signed name = [] ++ strip signed name ++ [] := by rw [List.nil_append,List.append_nil]
  exact (strip_eq_iff _ _).mpr ⟨[],[],alone,by simp,by simp,first,last⟩

/-- A cleaned name is a fixed point of the loops. -/
theorem clean_idempotent (name : ClientName) :
    cleanClientName signed (cleanClientName signed name) = cleanClientName signed name := by
  simp only [clean_eq_stripName]
  obtain ⟨small,inside,turns⟩ := scanned_spec name
  by_cases empty : strip signed (name.take (scanned name)) = []
  · rw [show stripName signed name = [] from if_pos empty]
    rfl
  · have kept : stripName signed name = strip signed (name.take (scanned name)) ++ name.drop (scanned name) := if_neg empty
    have positive : 0 < scanned name := by
      rcases Nat.eq_zero_or_pos (scanned name) with unscanned | positive
      · rw [unscanned] at empty
        exact absurd rfl empty
      · exact positive
    have shorter : (strip signed (name.take (scanned name))).length ≤ scanned name := by
      have dropped := (@List.dropWhile_suffix _ ((name.take (scanned name)).rdropWhile (padding signed)) (padding signed)).length_le
      have front := (List.rdropWhile_prefix (padding signed) (name.take (scanned name))).length_le
      have taken := List.length_take_le (scanned name) name
      rw [strip]
      omega
    have again := @scanned_append (strip signed (name.take (scanned name))) (name.drop (scanned name)) (by omega) (turns positive)
    rw [kept,stripName,again,List.take_left,List.drop_left,strip_idempotent,if_neg empty]

end

/-! ### The two platforms -/

/-- A name that fits an `int` is cleaned by stripping it. -/
theorem clean_of_fits {signed : Bool} {name : ClientName} (fits : name.length < 0x80000000) :
    cleanClientName signed name = strip signed name := by
  rw [clean_eq_stripName,stripName,scanned_of_fits fits,List.take_length,List.drop_length,List.append_nil]
  split
  · rename_i empty
    exact empty.symm
  · rfl

private theorem padding_signed (b : UInt8) : padding true b = true ↔ padding false b = true ∨ 128 ≤ b.toNat := by
  simp only [padding,charValue,decide_eq_true_eq,Bool.false_eq_true,false_and,if_false,true_and]
  have range := b.toNat_lt
  split
  · omega
  · omega

/-- The first byte and the last are below 128. -/
def EndsInAscii (name : List UInt8) : Prop := (∀ b ∈ name.head?, b.toNat < 128) ∧ ∀ b ∈ name.getLast?, b.toNat < 128

private theorem endsInAscii_singleton {b : UInt8} (ascii : b.toNat < 128) : EndsInAscii [b] := by
  constructor
  · intro c first
    obtain rfl := Option.mem_some_iff.mp first
    exact ascii
  · intro c last
    obtain rfl := Option.mem_some_iff.mp last
    exact ascii

/-- A byte that is no padding as an unsigned `char` is none as a signed one exactly when it is below 128. -/
private theorem kept_signed {b : UInt8} (kept : padding false b = false) : padding true b = false ↔ b.toNat < 128 := by
  rw [← Bool.not_eq_true,padding_signed,kept]
  simp only [Bool.false_eq_true,false_or]
  omega

/-- Signed and unsigned, the same is stripped exactly when what is left unsigned has an ASCII character at both ends. -/
theorem strip_signed_iff (name : List UInt8) :
    strip true name = strip false name ↔ EndsInAscii (strip false name) := by
  obtain ⟨front,back,parts,allFront,allBack,first,last⟩ := (strip_eq_iff name (strip false name)).mp rfl
  constructor
  · intro same
    obtain ⟨_,_,_,_,_,first',last'⟩ := (strip_eq_iff name (strip false name)).mp same
    constructor
    · exact fun b member => (kept_signed (first b member)).mp (first' b member)
    · exact fun b member => (kept_signed (last b member)).mp (last' b member)
  · rintro ⟨asciiFirst,asciiLast⟩
    refine (strip_eq_iff name (strip false name)).mpr ⟨front,back,parts,?_,?_,?_,?_⟩
    · exact fun b member => (padding_signed b).mpr (.inl (allFront b member))
    · exact fun b member => (padding_signed b).mpr (.inl (allBack b member))
    · exact fun b member => (kept_signed (first b member)).mpr (asciiFirst b member)
    · exact fun b member => (kept_signed (last b member)).mpr (asciiLast b member)

/-- Cleaning two names drops from their ends the bytes up to 32 and nothing else; so it is done with the first
    time, and the names denote one client exactly when they differ in such bytes only. -/
structure CleansPadding (signed : Bool) (name other : ClientName) : Prop where
  cleaned : cleanClientName signed name = strip false name
  cleanedOther : cleanClientName signed other = strip false other
  once : cleanClientName signed (cleanClientName signed name) = cleanClientName signed name
  onceOther : cleanClientName signed (cleanClientName signed other) = cleanClientName signed other
  sameClient : cleanClientName signed name = cleanClientName signed other ↔ strip false name = strip false other

/-- Where plain `char` is unsigned cleaning drops the bytes up to 32; where it is signed it drops no more than these
    exactly when what they enclose has an ASCII character at both ends. -/
theorem cleans_padding_iff (signed : Bool) {name other : ClientName} (fits : name.length < 0x80000000)
    (fitsOther : other.length < 0x80000000) : CleansPadding signed name other ↔
      (signed = true → EndsInAscii (strip false name) ∧ EndsInAscii (strip false other)) := by
  constructor
  · rintro cleans rfl
    have cleaned := cleans.cleaned
    have cleanedOther := cleans.cleanedOther
    rw [clean_of_fits fits] at cleaned
    rw [clean_of_fits fitsOther] at cleanedOther
    exact ⟨(strip_signed_iff name).mp cleaned,(strip_signed_iff other).mp cleanedOther⟩
  · intro ascii
    have both : strip signed name = strip false name ∧ strip signed other = strip false other := by
      cases signed with
      | false => exact ⟨rfl,rfl⟩
      | true =>
        obtain ⟨ends,endsOther⟩ := ascii rfl
        exact ⟨(strip_signed_iff name).mpr ends,(strip_signed_iff other).mpr endsOther⟩
    have cleaned := (clean_of_fits fits).trans both.1
    have cleanedOther := (clean_of_fits fitsOther).trans both.2
    exact ⟨cleaned,cleanedOther,clean_idempotent name,clean_idempotent other,by rw [cleaned,cleanedOther]⟩

/-- Two names with different last letters outside ASCII. -/
def accentedNames : ClientName × ClientName := ([97,195,169],[97,195,188])

/-- Padded letters are cleaned alike on both platforms. -/
theorem cleans_padded_letters :
    (([32,97] : ClientName).length < 0x80000000 ∧ ([98,10] : ClientName).length < 0x80000000) ∧
      CleansPadding true [32,97] [98,10] := by
  have letter : strip false [32,97] = [97] := by decide
  have otherLetter : strip false [98,10] = [98] := by decide
  refine ⟨⟨by decide,by decide⟩,(cleans_padding_iff true (by decide) (by decide)).mpr fun _ => ?_⟩
  rw [letter,otherLetter]
  exact ⟨endsInAscii_singleton (by decide),endsInAscii_singleton (by decide)⟩

/-- Where plain `char` is signed they lose these letters and denote one client. -/
theorem accents_merged : ¬ CleansPadding true accentedNames.1 accentedNames.2 := by
  intro cleans
  have merged : strip false accentedNames.1 = strip false accentedNames.2 := cleans.sameClient.mp (by decide)
  exact absurd merged (by decide)

end LifecycleMgr
