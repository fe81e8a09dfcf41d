import Allgres.Web.Http

/-! How the bytes of a stream, whatever its chunks, decide what request the worker reads. -/

namespace Allgres

open RustStr Utf8

variable {bytes chunk rest pre : List UInt8} {chunks more : List (List UInt8)} {closed : Bool} {h p q L : Nat}

/-! ### The header's end -/

theorem headerEnd_cons (b : UInt8) (rest : List UInt8) :
    headerEnd (b :: rest) = if [13, 10, 13, 10] <+: b :: rest then some 4 else (headerEnd rest).map (· + 1) := by
  split
  next blank =>
    obtain ⟨behind, same⟩ := blank
    rw [← same]
    rfl
  next other =>
    refine headerEnd.eq_3 b rest fun behind first second => other ?_
    subst first second
    exact ⟨behind, rfl⟩

theorem headerEnd_bounds (found : headerEnd bytes = some h) : 4 ≤ h ∧ h ≤ bytes.length := by
  induction bytes generalizing h with
  | nil => cases found
  | cons b rest ih =>
    rw [headerEnd_cons] at found
    split at found
    next blank =>
      obtain rfl := Option.some.inj found
      exact ⟨Nat.le_refl 4, blank.length_le⟩
    · obtain ⟨before, earlier, rfl⟩ := Option.map_eq_some_iff.mp found
      have bounds := ih earlier
      rw [List.length_cons]
      omega

/-- The end is known as soon as it has been read. -/
theorem headerEnd_take (bytes : List UInt8) (p : Nat) :
    headerEnd (bytes.take p) = (headerEnd bytes).filter fun h => decide (h ≤ p) := by
  induction bytes generalizing p with
  | nil => rw [List.take_nil]; rfl
  | cons b rest ih =>
    cases p with
    | zero =>
      rw [List.take_zero]
      symm
      refine Option.filter_eq_none_iff.mpr fun h found within => ?_
      have bounds := headerEnd_bounds found
      have none := of_decide_eq_true within
      omega
    | succ p =>
      rw [List.take_succ_cons, headerEnd_cons, headerEnd_cons, ih p]
      have start : [13, 10, 13, 10] <+: b :: rest.take p ↔ [13, 10, 13, 10] <+: b :: rest ∧ 3 ≤ p := by
        rw [← List.take_succ_cons, List.prefix_take_iff]
        refine and_congr_right fun _ => ?_
        show 4 ≤ p + 1 ↔ 3 ≤ p
        omega
      by_cases blank : [13, 10, 13, 10] <+: b :: rest
      · rw [if_pos blank]
        by_cases whole : 3 ≤ p
        · rw [if_pos (start.mpr ⟨blank, whole⟩)]
          have fits : decide (4 ≤ p + 1) = true := decide_eq_true (by omega)
          rw [Option.filter_some, fits]
          rfl
        · rw [if_neg fun blank => whole (start.mp blank).2]
          have late : decide (4 ≤ p + 1) = false := decide_eq_false (by omega)
          rw [Option.filter_some, late]
          have none : (headerEnd rest).filter (fun h => decide (h ≤ p)) = none := by
            refine Option.filter_eq_none_iff.mpr fun h found within => ?_
            have bounds := headerEnd_bounds found
            have small := of_decide_eq_true within
            omega
          rw [none]
          rfl
      · rw [if_neg blank, if_neg fun cut => blank (start.mp cut).1]
        cases headerEnd rest with
        | none => rfl
        | some h => simp [Option.filter]

theorem headerEnd_within (found : headerEnd bytes = some h) (within : h ≤ p) : headerEnd (bytes.take p) = some h := by
  rw [headerEnd_take, found, Option.filter_some, if_pos (decide_eq_true within)]

theorem headerEnd_behind (found : headerEnd bytes = some h) (behind : p < h) : headerEnd (bytes.take p) = none := by
  have late : ¬ h ≤ p := Nat.not_le.mpr behind
  rw [headerEnd_take, found, Option.filter_some, decide_eq_false late]
  rfl

theorem contentLength_take (bytes : List UInt8) (within : h ≤ p) : contentLength (bytes.take p) h = contentLength bytes h := by
  rw [contentLength, List.take_take, min_eq_left within, ← contentLength]

/-- What is read of a stream has the request's head, which the header section gives, and
the bytes that follow. -/
theorem parseHttpRequest_take (found : headerEnd bytes = some h) (within : h ≤ p) :
    parseHttpRequest (bytes.take p) = (parseHttpRequest (bytes.take h)).map fun head =>
      { head with body := decodeLossy ((bytes.drop h).take (p - h)) } := by
  rw [parseHttpRequest, parseHttpRequest, headerEnd_within found within, headerEnd_within found (Nat.le_refl h)]
  dsimp only
  rw [List.take_take, min_eq_left within, List.take_take, min_self, List.drop_take]
  split
  · rfl
  · split <;> rfl

theorem parseHttpRequest_headless (none : headerEnd bytes = none) : parseHttpRequest bytes = Option.none := by
  rw [parseHttpRequest, none]

/-! ### The loop -/

/-- What the loop knows of the frame once it has these bytes. -/
def frameOf (data : List UInt8) : Frame := Frame.found ⟨none, 0⟩ data

/-- The number of bytes from which on the loop is content. -/
def waitedFor (bytes : List UInt8) : Nat :=
  match headerEnd bytes with
  | none => bytes.length + 1
  | some h => max h ((h + contentLength bytes h) % 2 ^ 64)

theorem waitedFor_pos (bytes : List UInt8) : 0 < waitedFor bytes := by
  unfold waitedFor
  split
  · omega
  next h found =>
    have bounds := headerEnd_bounds found
    omega

theorem frameOf_within (found : headerEnd bytes = some h) (within : h ≤ p) :
    frameOf (bytes.take p) = ⟨some h, contentLength bytes h⟩ := by
  rw [frameOf, Frame.found, headerEnd_within found within]
  exact congrArg _ (contentLength_take bytes within)

theorem frameOf_headless (none : headerEnd bytes = none) : frameOf bytes = ⟨Option.none, 0⟩ := by
  rw [frameOf, Frame.found, none]

theorem found_grows (bytes : List UInt8) (grows : p ≤ q) :
    (frameOf (bytes.take p)).found (bytes.take q) = frameOf (bytes.take q) := by
  cases known : headerEnd (bytes.take p) with
  | none => rw [frameOf_headless known, frameOf]
  | some h =>
    rw [headerEnd_take] at known
    obtain ⟨found, within⟩ := Option.filter_eq_some_iff.mp known
    have within := of_decide_eq_true within
    rw [frameOf_within found within, frameOf_within found (within.trans grows)]
    rfl

theorem complete_take (bytes : List UInt8) (inside : p ≤ bytes.length) :
    (frameOf (bytes.take p)).complete (bytes.take p) = decide (waitedFor bytes ≤ p) := by
  unfold waitedFor
  cases found : headerEnd bytes with
  | none =>
    have headless : headerEnd (bytes.take p) = none := by rw [headerEnd_take, found]; rfl
    have beyond : ¬ bytes.length + 1 ≤ p := by omega
    rw [frameOf_headless headless, decide_eq_false beyond]
    rfl
  | some h =>
    dsimp only
    by_cases within : h ≤ p
    · rw [frameOf_within found within, Frame.complete, Option.any_some, List.length_take, min_eq_left inside]
      refine decide_eq_decide.mpr ?_
      rw [Nat.max_le]
      exact (and_iff_right within).symm
    · have early : ¬ max h ((h + contentLength bytes h) % 2 ^ 64) ≤ p := fun most => within (Nat.max_le.mp most).1
      rw [frameOf_headless (headerEnd_behind found (Nat.lt_of_not_le within)), decide_eq_false early]
      rfl

/-- The reads that bring the chunks, and what the next one comes upon. -/
def arrivals (closed : Bool) (chunks : List (List UInt8)) : List Read :=
  chunks.map Read.data ++ [if closed then .data [] else .failed]

/-- A way in which reads into a buffer of 8192 bytes split a stream. -/
structure Chunking (bytes : List UInt8) (chunks : List (List UInt8)) : Prop where
  whole : chunks.flatten = bytes
  sizes : ∀ chunk ∈ chunks, chunk ≠ [] ∧ chunk.length ≤ 8192

theorem Chunking.tail (chunking : Chunking bytes (chunk :: chunks)) : Chunking (bytes.drop chunk.length) chunks := by
  refine ⟨?_, fun other inside => chunking.sizes other (List.mem_cons_of_mem chunk inside)⟩
  rw [← chunking.whole, List.flatten_cons, List.drop_left]

theorem Chunking.append {behind : List UInt8} (first : Chunking pre chunks) (second : Chunking behind more) :
    Chunking (pre ++ behind) (chunks ++ more) := by
  refine ⟨by rw [List.flatten_append, first.whole, second.whole], fun chunk inside => ?_⟩
  rcases List.mem_append.mp inside with inside | inside
  · exact first.sizes chunk inside
  · exact second.sizes chunk inside

theorem Chunking.one (some : chunk ≠ []) (fits : chunk.length ≤ 8192) : Chunking chunk [chunk] := by
  refine ⟨List.flatten_singleton .., fun other inside => ?_⟩
  obtain rfl := List.mem_singleton.mp inside
  exact ⟨some, fits⟩

/-- Every stream can come byte by byte. -/
theorem Chunking.singles (bytes : List UInt8) : Chunking bytes (bytes.map fun b => [b]) := by
  refine ⟨?_, fun chunk inside => ?_⟩
  · induction bytes with
    | nil => rfl
    | cons b rest ih => rw [List.map_cons, List.flatten_cons, ih]; rfl
  · obtain ⟨b, -, rfl⟩ := List.mem_map.mp inside
    exact ⟨List.cons_ne_nil b [], by rw [List.length_singleton]; omega⟩

theorem readLoop_chunk (some : chunk ≠ []) (next : chunk <+: bytes.drop p) (inside : p ≤ bytes.length) (reads : List Read) :
    readLoop (bytes.take p) (frameOf (bytes.take p)) (.data chunk :: reads) =
      if maxRequestBytes < p + chunk.length then none
      else if waitedFor bytes ≤ p + chunk.length then Option.some (bytes.take (p + chunk.length))
      else readLoop (bytes.take (p + chunk.length)) (frameOf (bytes.take (p + chunk.length))) reads := by
  have grown : bytes.take p ++ chunk = bytes.take (p + chunk.length) := by
    rw [List.take_add, ← List.prefix_iff_eq_take.mp next]
  have fits : p + chunk.length ≤ bytes.length := by
    have short := next.length_le
    rw [List.length_drop] at short
    omega
  cases chunk with
  | nil => exact absurd rfl some
  | cons b chunk =>
    rw [readLoop]
    dsimp only
    rw [grown, found_grows bytes (Nat.le_add_right p _), complete_take bytes fits, List.length_take, min_eq_left fits]
    · simp only [decide_eq_true_eq]
    · exact some

/-- Where the loop may stop reading a stream: at its end, if that comes early, or within a buffer behind what it waits for. -/
def LoopEnds (bytes : List UInt8) (L : Nat) : Prop :=
  (L = bytes.length ∧ L < waitedFor bytes) ∨
    (waitedFor bytes ≤ L ∧ L ≤ bytes.length ∧ L < waitedFor bytes + 8192)

/-- What the loop returns there. -/
def stopped (closed : Bool) (bytes : List UInt8) (L : Nat) : Option (List UInt8) :=
  if L ≤ maxRequestBytes ∧ (waitedFor bytes ≤ L ∨ closed = true) then some (bytes.take L) else none

theorem stopped_large (large : maxRequestBytes < L) : stopped closed bytes L = none := if_neg fun most => by omega

theorem stopped_enough (enough : waitedFor bytes ≤ L) :
    stopped closed bytes L = if maxRequestBytes < L then none else some (bytes.take L) := by
  by_cases large : maxRequestBytes < L
  · rw [stopped_large large, if_pos large]
  · rw [stopped, if_pos ⟨Nat.le_of_not_lt large, .inl enough⟩, if_neg large]

theorem readLoop_stops (inside : p ≤ bytes.length) (below : p < waitedFor bytes) (small : p ≤ maxRequestBytes)
    (chunking : Chunking (bytes.drop p) chunks) :
    ∃ L, LoopEnds bytes L ∧ readLoop (bytes.take p) (frameOf (bytes.take p)) (arrivals closed chunks) = stopped closed bytes L := by
  induction chunks generalizing p with
  | nil =>
    have ends : p = bytes.length := by
      have short := List.drop_eq_nil_iff.mp chunking.whole.symm
      omega
    refine ⟨p, .inl ⟨ends, below⟩, ?_⟩
    have early : ¬ waitedFor bytes ≤ p := Nat.not_le.mpr below
    rw [stopped]
    cases closed with
    | false => rw [if_neg (by simp [early])]; rfl
    | true => rw [if_pos ⟨small, .inr rfl⟩]; rfl
  | cons chunk chunks ih =>
    obtain ⟨some, size⟩ := chunking.sizes chunk (List.mem_cons_self ..)
    have next : chunk <+: bytes.drop p := ⟨chunks.flatten, by rw [← List.flatten_cons, chunking.whole]⟩
    have fits : p + chunk.length ≤ bytes.length := by
      have short := next.length_le
      rw [List.length_drop] at short
      omega
    have rest := chunking.tail
    rw [List.drop_drop] at rest
    have step := readLoop_chunk some next inside (arrivals closed chunks)
    show ∃ L, LoopEnds bytes L ∧ readLoop _ _ (.data chunk :: arrivals closed chunks) = _
    rw [step]
    by_cases enough : waitedFor bytes ≤ p + chunk.length
    · refine ⟨p + chunk.length, .inr ⟨enough, fits, by omega⟩, ?_⟩
      rw [if_pos enough, stopped_enough enough]
    · rw [if_neg enough]
      by_cases large : maxRequestBytes < p + chunk.length
      · -- Wherever the loop would have stopped is behind the limit, too.
        rw [if_pos large]
        by_cases whole : waitedFor bytes ≤ bytes.length
        · exact ⟨waitedFor bytes, .inr ⟨Nat.le_refl _, whole, by omega⟩, (stopped_large (by omega)).symm⟩
        · exact ⟨bytes.length, .inl ⟨rfl, by omega⟩, (stopped_large (by omega)).symm⟩
      · rw [if_neg large]
        exact ih fits (by omega) (by omega) rest

/-- Chunks that end before what the loop waits for are read one after another. -/
theorem readLoop_passes (next : pre <+: bytes.drop p) (inside : p ≤ bytes.length) (below : p + pre.length < waitedFor bytes)
    (small : p + pre.length ≤ maxRequestBytes) (chunking : Chunking pre chunks) (reads : List Read) :
    readLoop (bytes.take p) (frameOf (bytes.take p)) (chunks.map Read.data ++ reads) =
      readLoop (bytes.take (p + pre.length)) (frameOf (bytes.take (p + pre.length))) reads := by
  induction chunks generalizing p pre with
  | nil =>
    obtain rfl : [] = pre := chunking.whole
    rfl
  | cons chunk chunks ih =>
    obtain ⟨some, -⟩ := chunking.sizes chunk (List.mem_cons_self ..)
    obtain rfl : chunk ++ chunks.flatten = pre := chunking.whole
    rw [List.length_append] at below small ⊢
    have step := readLoop_chunk some ((List.prefix_append chunk _).trans next) inside (chunks.map Read.data ++ reads)
    have short := next.length_le
    rw [List.length_drop, List.length_append] at short
    have behind : chunks.flatten <+: bytes.drop (p + chunk.length) := by
      obtain ⟨behind, same⟩ := next
      rw [← List.drop_drop, ← same, List.append_assoc, List.drop_left]
      exact List.prefix_append _ behind
    have rest : Chunking chunks.flatten chunks := ⟨rfl, fun other inside => chunking.sizes other (List.mem_cons_of_mem chunk inside)⟩
    rw [List.map_cons, List.cons_append, step, if_neg (by omega), if_neg (by omega),
      ih behind (by omega) (by omega) (by omega) rest, Nat.add_assoc]

theorem readHttpRequest_stops (closed : Bool) (chunking : Chunking bytes chunks) :
    ∃ L, LoopEnds bytes L ∧ readHttpRequest (arrivals closed chunks) = (stopped closed bytes L).bind parseHttpRequest := by
  obtain ⟨L, stops, reads⟩ := readLoop_stops (p := 0) (Nat.zero_le _) (waitedFor_pos bytes) (Nat.zero_le _) chunking
  exact ⟨L, stops, congrArg (Option.bind · parseHttpRequest) reads⟩

/-- Some chunks stop the loop at any place where it may stop. -/
theorem readHttpRequest_reaches (closed : Bool) (stops : LoopEnds bytes L) :
    ∃ chunks, Chunking bytes chunks ∧
      readHttpRequest (arrivals closed chunks) = (stopped closed bytes L).bind parseHttpRequest := by
  rcases stops with ⟨rfl, early⟩ | ⟨enough, inside, near⟩
  · obtain ⟨L, stops, reads⟩ := readHttpRequest_stops closed (Chunking.singles bytes)
    have ends : L = bytes.length := by
      rcases stops with ⟨ends, -⟩ | ⟨enough, inside, -⟩
      · exact ends
      · omega
    exact ⟨_, Chunking.singles bytes, ends ▸ reads⟩
  · obtain ⟨t, next⟩ : ∃ t, waitedFor bytes = t + 1 := Nat.exists_eq_add_one.mpr (waitedFor_pos bytes)
    by_cases small : t ≤ maxRequestBytes
    · -- Byte by byte up to the last one before what is waited for, and the rest up to `L` at once.
      have front : (bytes.take L).take t = bytes.take t := by rw [List.take_take, min_eq_left (by omega)]
      have short : (bytes.take t).length = t := by rw [List.length_take, min_eq_left (by omega)]
      have size : ((bytes.take L).drop t).length = L - t := by rw [List.length_drop, List.length_take, min_eq_left inside]
      have parts : bytes.take t ++ ((bytes.take L).drop t ++ bytes.drop L) = bytes := by
        rw [← List.append_assoc, ← front, List.take_append_drop, List.take_append_drop]
      have some : (bytes.take L).drop t ≠ [] := List.ne_nil_of_length_pos (by omega)
      have last := Chunking.one some (by omega)
      have chunking := (Chunking.singles (bytes.take t)).append (last.append (Chunking.singles (bytes.drop L)))
      rw [parts] at chunking
      refine ⟨_, chunking, congrArg (Option.bind · parseHttpRequest) ?_⟩
      have begins : bytes.take t <+: bytes.drop 0 := List.take_prefix t bytes
      have passes := readLoop_passes begins (Nat.zero_le _) (by omega) (by omega) (Chunking.singles _)
      have cut : (bytes.take L).drop t <+: bytes.drop t := by
        rw [List.drop_take]
        exact List.take_prefix (L - t) (bytes.drop t)
      have whole : t + (L - t) = L := by omega
      rw [arrivals, List.map_append, List.append_assoc, List.map_append]
      refine (passes _).trans ?_
      rw [short, Nat.zero_add]
      refine (readLoop_chunk some cut (by omega) _).trans ?_
      rw [size, whole, if_pos enough, stopped_enough enough]
    · -- No chunks get that far.
      obtain ⟨place, stops, reads⟩ := readHttpRequest_stops closed (Chunking.singles bytes)
      refine ⟨_, Chunking.singles bytes, reads.trans ?_⟩
      have far : maxRequestBytes < place := by
        rcases stops with ⟨rfl, early⟩ | ⟨enough, -, -⟩ <;> omega
      rw [stopped_large far, stopped_large (by omega)]

/-! ### The requests -/

/-- The number that a declaredNumber text stands for, of any size. -/
def declaredNumber (text : List Char) : Option Nat :=
  let digits := if text.head? = some '+' then text.tail else text
  if digits ≠ [] ∧ digits.all Char.isDigit then
    some (digits.foldl (fun value c => value * 10 + (c.toNat - '0'.toNat)) 0)
  else none

/-- The `Content-Length` of a request, as its own headers have it. -/
def declaredLength (r : HttpRequest) : Option Nat := (r.header "content-length").bind fun value => declaredNumber value.toList

/-- What a client may expect of the bytes it sends, in whatever chunks they arrive;
`closed` says that it closes its side of the connection. -/
structure WellFramed (closed : Bool) (bytes : List UInt8) : Prop where
  same : ∀ chunks more, Chunking bytes chunks → Chunking bytes more →
    readHttpRequest (arrivals closed chunks) = readHttpRequest (arrivals closed more)
  body : ∀ chunks h r n, Chunking bytes chunks → headerEnd bytes = some h →
    readHttpRequest (arrivals closed chunks) = some r → declaredLength r = some n → h + n ≤ bytes.length →
    r.body = decodeLossy ((bytes.drop h).take n)
  short : ∀ chunks h r n, Chunking bytes chunks → headerEnd bytes = some h →
    readHttpRequest (arrivals closed chunks) = some r → declaredLength r = some n → h + n ≤ bytes.length
  fits : ∀ h, headerEnd bytes = some h → h ≤ maxRequestBytes → h + contentLength bytes h < 2 ^ 64

/-- Where the header section is within the limit, what is wanted behind it fits a machine
word; and what the loop can buffer of the body, if the head is one and the buffer is
parsed at all, reads like what is wanted and like what is declared. -/
def Framable (closed : Bool) (bytes : List UInt8) : Prop :=
  ∀ h, headerEnd bytes = some h → h ≤ maxRequestBytes →
    let sent := bytes.drop h
    let want := contentLength bytes h
    h + want < 2 ^ 64 ∧
      ∀ head, parseHttpRequest (bytes.take h) = some head → h + min want sent.length ≤ maxRequestBytes →
        want ≤ sent.length ∨ closed = true →
        (∀ k, want ≤ k → k < want + 8192 → k ≤ sent.length →
          h + k ≤ maxRequestBytes ∧ decodeLossy (sent.take k) = decodeLossy (sent.take want)) ∧
        ∀ n, declaredLength head = some n →
          n ≤ sent.length ∧ decodeLossy (sent.take want) = decodeLossy (sent.take n)

theorem waitedFor_fits (found : headerEnd bytes = some h) (fits : h + contentLength bytes h < 2 ^ 64) :
    waitedFor bytes = h + contentLength bytes h := by
  rw [waitedFor, found]
  dsimp only
  rw [Nat.mod_eq_of_lt fits, max_eq_right (Nat.le_add_right h _)]

theorem waitedFor_header (found : headerEnd bytes = some h) : h ≤ waitedFor bytes := by
  rw [waitedFor, found]
  exact Nat.le_max_left ..

theorem LoopEnds.header (stops : LoopEnds bytes L) (found : headerEnd bytes = some h) : h ≤ L := by
  have bounds := headerEnd_bounds found
  have least := waitedFor_header found
  rcases stops with ⟨ends, -⟩ | ⟨enough, -, -⟩ <;> omega

theorem stopped_parse (found : headerEnd bytes = some h) (within : h ≤ L) :
    (stopped closed bytes L).bind parseHttpRequest =
      if L ≤ maxRequestBytes ∧ (waitedFor bytes ≤ L ∨ closed = true) then
        (parseHttpRequest (bytes.take h)).map fun head => { head with body := decodeLossy ((bytes.drop h).take (L - h)) }
      else none := by
  rw [stopped]
  split
  · exact parseHttpRequest_take found within
  · rfl

/-- Without a head there is no request. -/
theorem readHttpRequest_headless (closed : Bool) (headless : ∀ h, headerEnd bytes = some h → h ≤ maxRequestBytes →
      parseHttpRequest (bytes.take h) = none) (chunking : Chunking bytes chunks) :
    readHttpRequest (arrivals closed chunks) = none := by
  obtain ⟨L, stops, reads⟩ := readHttpRequest_stops closed chunking
  rw [reads]
  cases found : headerEnd bytes with
  | none =>
    rw [stopped]
    split
    · refine parseHttpRequest_headless ?_
      rw [headerEnd_take, found]
      rfl
    · rfl
  | some h =>
    have within := stops.header found
    rw [stopped_parse found within]
    split
    next few => rw [headless h found (within.trans few.1)]; rfl
    · rfl

theorem readHttpRequest_framed (framable : Framable closed bytes) (found : headerEnd bytes = some h)
    (small : h ≤ maxRequestBytes) {head : HttpRequest} (parsed : parseHttpRequest (bytes.take h) = some head)
    (chunking : Chunking bytes chunks) :
    readHttpRequest (arrivals closed chunks) =
      if h + min (contentLength bytes h) (bytes.drop h).length ≤ maxRequestBytes ∧
          (contentLength bytes h ≤ (bytes.drop h).length ∨ closed = true) then
        some { head with body := decodeLossy ((bytes.drop h).take (contentLength bytes h)) }
      else none := by
  obtain ⟨fits, framed⟩ := framable h found small
  obtain ⟨L, stops, reads⟩ := readHttpRequest_stops closed chunking
  have within := stops.header found
  have bounds := headerEnd_bounds found
  have behind : (bytes.drop h).length = bytes.length - h := List.length_drop
  rw [reads, stopped_parse found within, waitedFor_fits found fits, parsed]
  rw [LoopEnds, waitedFor_fits found fits] at stops
  rcases stops with ⟨rfl, early⟩ | ⟨enough, inside, near⟩
  · -- Everything that was sent is too little.
    have most : h + min (contentLength bytes h) (bytes.drop h).length = bytes.length := by omega
    have few : ¬ h + contentLength bytes h ≤ bytes.length := Nat.not_le.mpr early
    have short : ¬ contentLength bytes h ≤ (bytes.drop h).length := by omega
    have all : (bytes.drop h).take (bytes.length - h) = (bytes.drop h).take (contentLength bytes h) := by
      rw [List.take_of_length_le (by omega), List.take_of_length_le (by omega)]
    rw [most, all]
    simp only [few, short, Option.map_some]
  · have most : h + min (contentLength bytes h) (bytes.drop h).length = h + contentLength bytes h := by omega
    have whole : contentLength bytes h ≤ (bytes.drop h).length := by omega
    rw [most]
    by_cases limited : h + contentLength bytes h ≤ maxRequestBytes
    · obtain ⟨texts, -⟩ := framed head parsed (by omega) (.inl whole)
      obtain ⟨below, text⟩ := texts (L - h) (by omega) (by omega) (by omega)
      rw [if_pos ⟨by omega, .inl enough⟩, if_pos ⟨limited, .inl whole⟩, text, Option.map_some]
    · have beyond : ¬ L ≤ maxRequestBytes := by omega
      rw [if_neg fun fits => beyond fits.1, if_neg fun fits => limited fits.1]

theorem declaredLength_body (head : HttpRequest) (text : String) :
    declaredLength { head with body := text } = declaredLength head := rfl

theorem WellFramed.framable (framed : WellFramed closed bytes) : Framable closed bytes := by
  intro h found small
  have fits := framed.fits h found small
  have bounds := headerEnd_bounds found
  have behind : (bytes.drop h).length = bytes.length - h := List.length_drop
  have stopsAt {L : Nat} : LoopEnds bytes L ↔ (L = bytes.length ∧ L < h + contentLength bytes h) ∨
      (h + contentLength bytes h ≤ L ∧ L ≤ bytes.length ∧ L < h + contentLength bytes h + 8192) := by
    rw [LoopEnds, waitedFor_fits found fits]
  refine ⟨fits, fun head parsed limited sent => ?_⟩
  obtain ⟨chunks, chunking, reads⟩ := readHttpRequest_reaches closed (stopsAt.mpr
    (by omega : h + min (contentLength bytes h) (bytes.drop h).length = bytes.length ∧ _ ∨ _))
  have kept : (bytes.drop h).take (h + min (contentLength bytes h) (bytes.drop h).length - h) =
      (bytes.drop h).take (contentLength bytes h) := by
    rw [Nat.add_sub_cancel_left, ← List.take_eq_take_min]
  have reached : waitedFor bytes ≤ h + min (contentLength bytes h) (bytes.drop h).length ∨ closed = true := by
    rw [waitedFor_fits found fits]
    exact sent.imp_left fun whole => by omega
  rw [stopped_parse found (Nat.le_add_right h _), if_pos ⟨limited, reached⟩, parsed, kept, Option.map_some] at reads
  constructor
  · intro k wanted near inside
    obtain ⟨more, again, other⟩ := readHttpRequest_reaches closed (stopsAt.mpr (.inr (by omega) : h + k = _ ∧ _ ∨ _))
    have same := (framed.same more chunks again chunking).trans reads
    rw [other, stopped_parse found (Nat.le_add_right h k)] at same
    split at same
    next few =>
      rw [parsed, Option.map_some, Nat.add_sub_cancel_left] at same
      exact ⟨few.1, congrArg HttpRequest.body (Option.some.inj same)⟩
    · cases same
  · intro n declared
    rw [← declaredLength_body head (decodeLossy ((bytes.drop h).take (contentLength bytes h)))] at declared
    have inside := framed.short chunks h _ n chunking found reads declared
    have text := framed.body chunks h _ n chunking found reads declared inside
    exact ⟨by omega, text⟩

/-- Whatever the chunks are, a framable stream is read alike. -/
theorem Framable.reads (framable : Framable closed bytes) :
    ∃ answer, ∀ chunks, Chunking bytes chunks → readHttpRequest (arrivals closed chunks) = answer := by
  by_cases headed : ∃ h head, headerEnd bytes = some h ∧ h ≤ maxRequestBytes ∧ parseHttpRequest (bytes.take h) = some head
  · obtain ⟨h, head, found, small, parsed⟩ := headed
    exact ⟨_, fun chunks chunking => readHttpRequest_framed framable found small parsed chunking⟩
  · refine ⟨none, fun chunks chunking => readHttpRequest_headless closed (fun h found small => ?_) chunking⟩
    exact Option.eq_none_iff_forall_ne_some.mpr fun head parsed => headed ⟨h, head, found, small, parsed⟩

/-- A request that was read has a head, and the bytes that its length promises. -/
theorem Framable.request (framable : Framable closed bytes) (chunking : Chunking bytes chunks) {r : HttpRequest} {n : Nat}
    (found : headerEnd bytes = some h) (reads : readHttpRequest (arrivals closed chunks) = some r)
    (declared : declaredLength r = some n) :
    h + n ≤ bytes.length ∧ r.body = decodeLossy ((bytes.drop h).take n) := by
  have behind : (bytes.drop h).length = bytes.length - h := List.length_drop
  have bounds := headerEnd_bounds found
  by_cases headed : h ≤ maxRequestBytes ∧ (parseHttpRequest (bytes.take h)).isSome = true
  · obtain ⟨small, some⟩ := headed
    obtain ⟨head, parsed⟩ := Option.isSome_iff_exists.mp some
    rw [readHttpRequest_framed framable found small parsed chunking] at reads
    split at reads
    next reached =>
      obtain rfl := Option.some.inj reads
      rw [declaredLength_body] at declared
      obtain ⟨inside, text⟩ := ((framable h found small).2 head parsed reached.1 reached.2).2 n declared
      exact ⟨by omega, text⟩
    · cases reads
  · have nothing := readHttpRequest_headless closed (fun other found' small => by
      obtain rfl := Option.some.inj (found.symm.trans found')
      exact Option.not_isSome_iff_eq_none.mp fun some => headed ⟨small, some⟩) chunking
    cases nothing.symm.trans reads

/-- What is expected of a stream is met by exactly the framable ones. -/
theorem wellFramed_iff (closed : Bool) (bytes : List UInt8) : WellFramed closed bytes ↔ Framable closed bytes := by
  refine ⟨WellFramed.framable, fun framable => ⟨?_, ?_, ?_, fun h found small => (framable h found small).1⟩⟩
  · intro chunks more first second
    obtain ⟨answer, reads⟩ := framable.reads
    exact (reads chunks first).trans (reads more second).symm
  · intro chunks h r n chunking found reads declared _
    exact (framable.request chunking found reads declared).2
  · intro chunks h r n chunking found reads declared
    exact (framable.request chunking found reads declared).1

/-- A client that announces two bytes, sends one and closes. -/
def shortPost : List UInt8 := encode "POST / HTTP/1.1\r\nContent-Length: 2\r\n\r\na"

theorem not_wellFramed : ¬ ∀ closed bytes, WellFramed closed bytes := by
  intro framed
  have chunking : Chunking shortPost [shortPost] := Chunking.one (by decide +kernel) (by decide +kernel)
  have found : headerEnd shortPost = some 38 := by decide +kernel
  have declared : (readHttpRequest (arrivals true [shortPost])).bind declaredLength = some 2 := by decide +kernel
  obtain ⟨r, reads, length⟩ := Option.bind_eq_some_iff.mp declared
  have promised := (framed true shortPost).short _ 38 r 2 chunking found reads length
  have sent : shortPost.length = 39 := by decide +kernel
  omega

end Allgres
