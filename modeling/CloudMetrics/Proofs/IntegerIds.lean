import CloudMetrics.Proofs.IdentifiedRecords
import CloudMetrics.Proofs.LargeWholes

/-!
# Integers as ids

An id comes as a number or as a text. A number is read as the text of its digits, so either leads to the same
record, and different numbers lead to different requests and to different series. This holds for each integer up
to `2^63-1`. A greater one is read as a double, and what is kept are the digits of the double: they end in three
zeros, so hardly an integer has them, and the ids of different records can become one.
-/
namespace CloudMetrics

namespace Json

variable {n m : ℤ}

/-- An integer is read as its digits: always up to `2^63-1`, and beyond if the double nearest to it is printed
with them. -/
def KeepsDigits (n : ℤ) : Prop := n ≤ greatestInt ∨ Decimal.text (Float.ofInt n) = toString n

theorem readText_int (n : ℤ) :
    readText (.int n) = some (if n ≤ greatestInt then toString n else Decimal.text (Float.ofInt n)) := rfl

theorem readText_int_iff : readText (.int n) = some (toString n) ↔ KeepsDigits n := by
  rw [readText_int,Option.some_inj,KeepsDigits]
  split
  · next h => exact ⟨fun _ => .inl h,fun _ => rfl⟩
  · next h => exact ⟨.inr,fun hn => hn.resolve_left h⟩

theorem isSome_read_int (n : ℤ) : (Shape.text.read (.int n)).isSome := by
  rw [Shape.text,Shape.read]
  rfl

theorem isSome_read_string (t : String) : (Shape.text.read (.string t)).isSome := by
  rw [Shape.text,Shape.read]
  rfl

theorem KeepsDigits.read_eq (h : KeepsDigits n) :
    Shape.text.read (.int n) = Shape.text.read (.string (toString n)) := by
  rw [Shape.text,Shape.read,Shape.read,readText_int_iff.mpr h]
  rfl

theorem toString_int_injective : Function.Injective (toString : ℤ → String) := by
  intro n m h
  have hn := (Metrics.TextFormat.readInt?_toString n).1
  rw [h,(Metrics.TextFormat.readInt?_toString m).1] at hn
  exact (Option.some.inj hn).symm

theorem dvd_of_toDigits_eq {k : ℕ} {ds : List Char} (h : Nat.toDigits 10 k = ds ++ ['0','0','0']) : 1000 ∣ k := by
  have hk := Nat.ofDigitChars_ten_toDigits (n := k)
  rw [h,Nat.ofDigitChars_append] at hk
  simp only [Nat.ofDigitChars,List.foldl] at hk
  norm_num at hk
  omega

/-- Beyond `2^63-1` the digits are kept of thousands at most. -/
theorem KeepsDigits.dvd (h : KeepsDigits n) (hlo : greatestInt < n) (hhi : n < 2^64) : 1000 ∣ n := by
  obtain ⟨k,rfl⟩ := Int.eq_ofNat_of_zero_le (hlo.le.trans' (by decide))
  have hbounds : 2^63 ≤ k ∧ k < 2^64 := by
    rw [greatestInt] at hlo
    omega
  obtain ⟨ds,hds⟩ := Decimal.exists_text_ofNat hbounds.1 hbounds.2
  have htext : Decimal.text (Float.ofNat k) = toString (k : ℤ) := h.resolve_left (not_le_of_gt hlo)
  rw [htext,Metrics.TextFormat.toList_toString_int,if_neg (by omega),List.nil_append,Int.natAbs_natCast] at hds
  exact Int.natCast_dvd_natCast.mpr (dvd_of_toDigits_eq hds)

/-- The digits of an integer are its text, and it is read from them. -/
theorem read_toString (hlo : -2^63 ≤ n) (hhi : n < 2^64) :
    read .whole (Text.Utf8.encode (toString n)) = .ok (.int n) := by
  have hwrite : (Json.int n).writeList = (toString n).toList := by
    rw [writeList_int,Metrics.TextFormat.toList_toString_int]
  rw [Text.Utf8.encode,← hwrite]
  exact read_writeList (.int n (by omega) (by omega))

end Json

namespace Cloud

open Json Text

variable {c d : Call} {id : String} {n m : ℤ}

theorem isName_toString_int (n : ℤ) : IsName (toString n) := by
  have hdigits := isName_toString n.natAbs
  have htext := Metrics.TextFormat.toList_toString_int n
  constructor
  · rw [htext]
    exact List.append_ne_nil_of_right_ne_nil _ Nat.toDigits_ne_nil
  · intro c hc
    rw [htext,List.mem_append] at hc
    rcases hc with hc | hc
    · split at hc
      · obtain rfl := List.mem_singleton.mp hc
        decide
      · cases hc
    · exact hdigits.chars c (by rwa [toList_toString_nat])

theorem Call.subject?_of_id? (h : id ∈ c.id?) : c.subject? = some id := by
  cases c <;> first | exact h | cases h

theorem Call.exists_archives (h : c.subject? = some id) (hnone : c.id? = none) : ∃ z, c = .archives z id := by
  cases c with
  | archives z id' =>
    cases h
    exact ⟨z,rfl⟩
  | _ => exact absurd (h.symm.trans hnone) nofun

/-- The id among the segments of a path. -/
def idAmong? : List String → Option String
  | ["bill",_,id] => some id
  | _ :: id :: _ => some id
  | _ => none

theorem Call.idAmong?_segments (c : Call) : idAmong? c.segments = c.id? := by
  cases c <;> rfl

/-- Requests with different paths; only requests for archives have their ids in the query. -/
def Call.DiffersFrom (c d : Call) : Prop :=
  c.path ≠ d.path ∨ ∃ z z' id id', c = .archives z id ∧ d = .archives z' id' ∧ c.query? ≠ d.query?

theorem id_eq_of_query?_eq {z z' id id' : String}
    (h : (Call.archives z id).query? = (Call.archives z' id').query?) : id = id' := by
  have htag : Call.archiveTag id = Call.archiveTag id' := by
    simpa [Call.query?,Call.listQuery] using h
  simpa [Call.archiveTag,← String.toList_inj] using htag

theorem Call.differsFrom_of_subject? (hc : c.subject? = some (toString n)) (hd : d.subject? = some (toString m))
    (hne : n ≠ m) : c.DiffersFrom d := by
  have hname {c : Call} {n : ℤ} (h : c.subject? = some (toString n)) : ∀ id ∈ c.id?, IsName id := by
    intro id hid
    obtain rfl := Option.some.inj (h.symm.trans (subject?_of_id? hid))
    exact isName_toString_int n
  by_cases hpath : c.path = d.path
  · have hid : c.id? = d.id? := by
      rw [← c.idAmong?_segments,segments_inj (hname hc) (hname hd) hpath,d.idAmong?_segments]
    have htexts : toString n ≠ toString m := fun h => hne (toString_int_injective h)
    cases hcid : c.id? with
    | some id =>
      have hn := Option.some.inj (hc.symm.trans (subject?_of_id? hcid))
      have hm := Option.some.inj (hd.symm.trans (subject?_of_id? (hid ▸ hcid)))
      exact absurd (hn.trans hm.symm) htexts
    | none =>
      obtain ⟨z,rfl⟩ := exists_archives hc hcid
      obtain ⟨z',rfl⟩ := exists_archives hd (hid ▸ hcid)
      exact .inr ⟨z,z',_,_,rfl,rfl,fun h => htexts (id_eq_of_query?_eq h)⟩
  · exact .inl hpath

end Cloud

namespace Collect

open Cloud Json Metrics Time

/-- A record that is read from an object with an integer for a member. -/
def ReadFrom {α : Type} (shape : Shape α) (name : String) (n : ℤ) (r : α) : Prop :=
  ∃ ms, shape.read (.object ms) = some r ∧ member? name ms = some (.int n)

variable {n n' : ℤ}

/-- An integer may stand for its digits in each record with a text. -/
theorem read_int_eq {t : RecordType} (ht : t ∈ recordTypes) {fields : Fields t.Value} {name : String}
    {absent : Option String} (hr : t.shape.IsRecord fields) (hm : fields.Has name absent .text)
    (before after : Members) (n : ℤ) :
    (∀ digits, (t.shape.read (.object (before ++ (name,.int n) :: after))).isSome =
      (t.shape.read (.object (before ++ (name,.string digits) :: after))).isSome) ∧
    (KeepsDigits n → t.shape.read (.object (before ++ (name,.int n) :: after)) =
      t.shape.read (.object (before ++ (name,.string (toString n)) :: after))) := by
  have hnames := (hr.forgiving (forgiving_of_mem_recordTypes t ht)).1
  have hdepends := hr.dependsOn hm hnames before after
  exact ⟨fun digits => hdepends.isSome_eq (isSome_read_int n) (isSome_read_string digits),
    fun hn => hdepends.eq_of_read_eq (isSome_read_int n) hn.read_eq⟩

theorem get_eq_iff {t : TextRecord} (ht : t ∈ textRecords) {m : TextMember t.Value} (hm : m ∈ t.texts)
    {r : t.Value} (h : ReadFrom t.shape m.name n r) : m.get r = toString n ↔ KeepsDigits n := by
  obtain ⟨ms,hread,hmember⟩ := h
  have htext := readText_of_member t.texts ht hm hread hmember
  rw [← readText_int_iff,htext,Option.some_inj]

theorem series_ne {k : LabelledRecord} {r r' : k.Value} (h : k.id r ≠ k.id r') (p p' : k.Rest) :
    ∀ x ∈ k.rows p r, ∀ y ∈ k.rows p' r', x.series ≠ y.series := by
  intro x hx y hy heq
  have hlabels : x.labels = y.labels := congrArg Prod.snd heq
  have hx := k.bears p r x hx
  have hy := k.bears p' r' y hy
  rw [Sample.label?,hlabels] at hx
  exact h (Option.some.inj (hx.symm.trans hy))

/-- An integer and its digits agree. An integer of 64 bits is read from its digits. In each record with a text, at
any place, it makes a record wherever a text does, and the same one as its digits if it keeps them; the record
holds its digits only then, so up to `2^63-1`, and beyond for thousands at most. Each request about a listed
resource is about its id or a part's. Different integers that keep their digits lead to different texts, to
requests with different paths (those for archives have different queries), and to different series. -/
theorem integers_are_read_as_their_digits_iff (s : Setting) (n : ℤ) :
    (-2^63 ≤ n → n < 2^64 → Json.read .whole (Text.Utf8.encode (toString n)) = .ok (.int n)) ∧
    (greatestInt < n → n < 2^64 → KeepsDigits n → 1000 ∣ n) ∧
    (∀ t ∈ recordTypes, ∀ (fields : Fields t.Value) (name : String) (absent : Option String),
      t.shape.IsRecord fields → fields.Has name absent .text → ∀ before after : Members,
      (∀ digits, (t.shape.read (.object (before ++ (name,.int n) :: after))).isSome =
        (t.shape.read (.object (before ++ (name,.string digits) :: after))).isSome) ∧
      (KeepsDigits n → t.shape.read (.object (before ++ (name,.int n) :: after)) =
        t.shape.read (.object (before ++ (name,.string (toString n)) :: after)))) ∧
    (∀ t ∈ textRecords, ∀ m ∈ t.texts, ∀ r : t.Value, ReadFrom t.shape m.name n r →
      (m.get r = toString n ↔ KeepsDigits n)) ∧
    (∀ k ∈ listedKinds s, ∀ z r, ∀ c ∈ (k.cycle.deliver ⟨z,r⟩).journal.calls,
      ∃ id ∈ k.id r :: k.parts r, c.subject? = some id) ∧
    ∀ n' : ℤ, KeepsDigits n → KeepsDigits n' → n ≠ n' →
      (∀ t ∈ textRecords, ∀ m ∈ t.texts, ∀ r r' : t.Value, ReadFrom t.shape m.name n r →
        ReadFrom t.shape m.name n' r' → m.get r ≠ m.get r') ∧
      (∀ c d : Call, c.subject? = readText (.int n) → d.subject? = readText (.int n') → c.DiffersFrom d) ∧
      (∀ k ∈ listedKinds s, ∀ r r' : k.Value, ReadFrom k.shape "ID" n r → ReadFrom k.shape "ID" n' r' →
        ∀ z z', ∀ c ∈ (k.cycle.deliver ⟨z,r⟩).journal.calls, ∀ d ∈ (k.cycle.deliver ⟨z',r'⟩).journal.calls,
        c.subject? = some (k.id r) → d.subject? = some (k.id r') → c.DiffersFrom d) ∧
      ∀ k ∈ labelledRecords s, ∀ r r' : k.Value, ReadFrom k.shape k.member n r →
        ReadFrom k.shape k.member n' r' → ∀ p p', ∀ x ∈ k.rows p r, ∀ y ∈ k.rows p' r', x.series ≠ y.series := by
  refine ⟨read_toString,fun hlo hhi h => h.dvd hlo hhi,?_,?_,?_,fun n' hn hn' hne => ?_⟩
  · intro t ht fields name absent hr hm before after
    exact read_int_eq ht hr hm before after n
  · intro t ht m hm r h
    exact get_eq_iff ht hm h
  · intro k _ z r c hc
    rw [k.cycle.deliver_calls] at hc
    exact k.plan_asks z r c hc
  have hread := readText_int_iff.mpr hn
  have hread' := readText_int_iff.mpr hn'
  have htexts : toString n ≠ toString n' := fun h => hne (toString_int_injective h)
  refine ⟨?_,?_,?_,?_⟩
  · intro t ht m hm r r' h h'
    rwa [(get_eq_iff ht hm h).mpr hn,(get_eq_iff ht hm h').mpr hn']
  · intro c d hc hd
    exact Call.differsFrom_of_subject? (hc.trans hread) (hd.trans hread') hne
  · rintro k - r r' ⟨ms,hr,hm⟩ ⟨ms',hr',hm'⟩ z z' c - d - hc hd
    have hid := hc.trans ((k.id_read hr hm).symm.trans hread)
    have hid' := hd.trans ((k.id_read hr' hm').symm.trans hread')
    exact Call.differsFrom_of_subject? hid hid' hne
  · rintro k - r r' ⟨ms,hr,hm⟩ ⟨ms',hr',hm'⟩ p p'
    have hid := Option.some.inj ((k.id_read hr hm).symm.trans hread)
    have hid' := Option.some.inj ((k.id_read hr' hm').symm.trans hread')
    exact series_ne (by rwa [hid,hid']) p p'

/-- The greatest integer that always keeps its digits, and one beyond that does, as the ids of two coupons. -/
theorem integers_are_read_as_their_digits_of_two :
    Json.read .whole (Text.Utf8.encode (toString (10000000000000000000 : ℤ))) = .ok (.int 10000000000000000000) ∧
    (1000 : ℤ) ∣ 10000000000000000000 ∧
    Coupon.shape.read (.object [("Discount",.int 7),("CouponID",.int 9223372036854775807)]) =
      Coupon.shape.read (.object [("Discount",.int 7),("CouponID",.string (toString (9223372036854775807 : ℤ)))]) ∧
    (Call.coupons "9223372036854775807").DiffersFrom (.bills "10000000000000000000") ∧
    ∃ c d, ReadFrom Coupon.shape "CouponID" 9223372036854775807 c ∧
      ReadFrom Coupon.shape "CouponID" 10000000000000000000 d ∧
      c.id = toString (9223372036854775807 : ℤ) ∧ d.id = toString (10000000000000000000 : ℤ) ∧
      ∀ ends now, ∀ x ∈ Coupons.rows c ends now, ∀ y ∈ Coupons.rows d ends now, x.series ≠ y.series := by
  have holds := integers_are_read_as_their_digits_iff (oneZone fun _ => .error .client)
  obtain ⟨-,-,heq,hget,-,hne⟩ := holds 9223372036854775807
  obtain ⟨hdigits,hdvd,-,hget',-,-⟩ := holds 10000000000000000000
  have hsmall : KeepsDigits 9223372036854775807 := .inl (by decide)
  have hlarge : KeepsDigits 10000000000000000000 := .inr (by decide +kernel)
  obtain ⟨-,hcalls,-,hseries⟩ := hne _ hsmall hlarge (by decide)
  have hc : ReadFrom Coupon.shape "CouponID" 9223372036854775807 ⟨"9223372036854775807","","",0,none,none⟩ :=
    ⟨[("CouponID",.int 9223372036854775807)],rfl,rfl⟩
  have hd : ReadFrom Coupon.shape "CouponID" 10000000000000000000 ⟨"10000000000000000000","","",0,none,none⟩ :=
    ⟨[("CouponID",.int 10000000000000000000)],rfl,rfl⟩
  have hmem : ⟨_,Coupon.shape,Coupon.texts⟩ ∈ textRecords := by simp [textRecords,accountRecords]
  refine ⟨hdigits (by decide) (by decide),hdvd (by decide) (by decide) hlarge,?_,?_,_,_,hc,hd,?_,?_,?_⟩
  · have hhas : (Fields.start Coupon.mk |>.text "CouponID" |>.text "MemberID" |>.text "ContractID"
        |>.number "Discount" |>.optional "AppliedAt" dateShape |>.optional "UntilAt" dateShape).Has
        "CouponID" (some "") .text := .before (.before (.before (.before (.before .last))))
    exact (heq ⟨_,Coupon.shape,[]⟩ (by simp [recordTypes]) _ _ _ .record hhas [("Discount",.int 7)] []).2 hsmall
  · exact hcalls _ _ (by decide +kernel) (by decide +kernel)
  · exact (hget _ hmem _ List.mem_cons_self _ hc).mpr hsmall
  · exact (hget' _ hmem _ List.mem_cons_self _ hd).mpr hlarge
  · intro ends now
    refine hseries Coupons.record ?_ _ _ hc hd (ends,now) (ends,now)
    simp [labelledRecords]

/-- The greatest integer of 64 bits is kept with other digits, and so is its neighbour. -/
theorem an_id_of_twenty_digits_is_rounded :
    let account (id : Json) : Json := .object [("Account",.object [("ID",id)])]
    AuthStatus.shape.read (account (.int 18446744073709551615)) = some ⟨⟨"18446744073709552000","",""⟩⟩ ∧
    AuthStatus.shape.read (account (.int 18446744073709551614)) = some ⟨⟨"18446744073709552000","",""⟩⟩ ∧
    AuthStatus.shape.read (account (.string (toString (18446744073709551615 : ℤ)))) =
      some ⟨⟨"18446744073709551615","",""⟩⟩ ∧
    ¬KeepsDigits 18446744073709551615 := by
  refine ⟨by decide +kernel,by decide +kernel,by decide +kernel,?_⟩
  rintro (h | h)
  · exact absurd h (by decide)
  · exact absurd h (by decide +kernel)

end Collect

end CloudMetrics
