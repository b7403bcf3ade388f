import Lota.Core.Bytes

/-!
# Two programs that talk in frames

A `Prog` is a sequential program with one connection: it sends and receives
bodies, and asks its surroundings. On the connection a body is a frame, a
header of fixed length that tells how long the body is and then the body, and
frames go out and come in by pieces of any size, until something fails.

* `Party` is a program under way, with what it has done; `write`, `read`,
  `fail` and `answer` are its steps.
* `Follows p l p'`: from `p` on, doing `l` leads to `p'`.
* `Pipe F a pipe b`: `pipe` holds what `a` has sent and `b` not read.
* `Pipe.received`: the bodies `b` got are the first of those `a` sent, whatever
  the pieces and the failures. Every step of either party keeps `Pipe`.
-/
namespace Lota.Core.Dialogue

/-! ## Frames -/

/-- A header of `len` bytes that tells the length of the body. `size` is
`none` for a length that is refused. -/
structure Framing where
  len : Nat
  header : Bytes → Bytes
  size : Bytes → Option Nat
  fits : Bytes → Bool
  len_pos : 0 < len
  header_length : ∀ b, fits b = true → (header b).length = len
  size_header : ∀ b, fits b = true → size (header b) = some b.length

namespace Framing
variable (F : Framing)

def frame (b : Bytes) : Bytes := F.header b ++ b

def frames (bs : List Bytes) : Bytes := (bs.map F.frame).flatten

/-- What a buffer holds: too little, a length that is refused, or a body. -/
inductive Parse where
  | more
  | bad
  | done (body : Bytes)

def parse (buf : Bytes) : Parse :=
  if buf.length < F.len then .more
  else match F.size (buf.take F.len) with
    | none => .bad
    | some n => if buf.length < F.len + n then .more else .done (buf.drop F.len)

/-- How many bytes the next `read` may take: the rest of the header, then the
rest of the body. -/
def missing (buf : Bytes) : Nat :=
  if buf.length < F.len then F.len - buf.length
  else match F.size (buf.take F.len) with
    | none => 0
    | some n => F.len + n - buf.length

variable {F}

theorem frame_length {b : Bytes} (h : F.fits b = true) : (F.frame b).length = F.len + b.length := by
  unfold frame
  rw [List.length_append, F.header_length b h]

theorem frames_cons (b : Bytes) (bs : List Bytes) : F.frames (b :: bs) = F.frame b ++ F.frames bs := rfl

theorem frames_append (xs ys : List Bytes) : F.frames (xs ++ ys) = F.frames xs ++ F.frames ys := by
  unfold frames
  rw [List.map_append, List.flatten_append]

theorem frames_snoc (xs : List Bytes) (b : Bytes) :
    F.frames (xs ++ [b]) = F.frames xs ++ F.frame b := by
  rw [frames_append]
  unfold frames
  simp

theorem parse_nil : F.parse [] = .more := if_pos F.len_pos

/-- A buffer that never takes more than is missing is complete with its last
byte. -/
theorem parse_done {buf more body : Bytes} (hold : F.parse buf = .more)
    (hmore : more.length ≤ F.missing buf)
    (h : F.parse (buf ++ more) = .done body) :
    F.size ((buf ++ more).take F.len) = some body.length ∧ (buf ++ more).length = F.len + body.length ∧
      body = (buf ++ more).drop F.len := by
  unfold parse at h
  split at h
  · cases h
  · next hlen =>
    split at h
    · cases h
    · next n hn =>
      split at h
      · cases h
      · next hfull =>
        cases h
        have hexact : (buf ++ more).length = F.len + n := by
          rw [List.length_append] at hfull hlen ⊢
          unfold missing at hmore
          split at hmore
          · omega
          · next hhead =>
            have htake : (buf ++ more).take F.len = buf.take F.len :=
              List.take_append_of_le_length (by omega)
            rw [htake] at hn
            rw [hn] at hmore
            unfold parse at hold
            rw [if_neg hhead, hn] at hold
            simp only at hold hmore
            split at hold
            · omega
            · cases hold
        refine ⟨?_, ?_, rfl⟩
        · rw [hn, List.length_drop, hexact, Nat.add_sub_cancel_left]
        · rw [List.length_drop, hexact, Nat.add_sub_cancel_left]

/-- A part of one frame, without its last byte. -/
def Part (F : Framing) (part : Bytes) : Prop :=
  part = [] ∨ ∃ b, F.fits b = true ∧ part <+: F.frame b ∧ part.length < (F.frame b).length

/-- The header in front of a stream is that of its first frame. -/
theorem size_take {buf rest b : Bytes} (hb : F.fits b = true) (hlen : F.len ≤ buf.length)
    (hpre : buf ++ rest <+: F.frame b ∨ F.frame b <+: buf ++ rest) :
    F.size (buf.take F.len) = some b.length := by
  have hhead : F.header b <+: F.frame b := List.prefix_append _ _
  have hboth : buf.take F.len = F.header b := by
    have hl : (buf.take F.len).length = (F.header b).length := by
      rw [F.header_length b hb, List.length_take, min_eq_left hlen]
    have htake : buf.take F.len <+: buf ++ rest := (List.take_prefix _ _).trans (List.prefix_append _ _)
    rcases hpre with h | h
    · exact (List.prefix_of_prefix_length_le (htake.trans h) hhead (Nat.le_of_eq hl)).eq_of_length hl
    · exact (List.prefix_of_prefix_length_le htake (hhead.trans h) (Nat.le_of_eq hl)).eq_of_length hl
  rw [hboth, F.size_header b hb]

/-- **Reading a frame.** What is read off the front of a stream of frames is
the first of them. -/
theorem read_frame {buf rest part body : Bytes} {bs : List Bytes} (hbs : ∀ b ∈ bs, F.fits b = true)
    (hpart : Part F part)
    (hs : buf ++ rest = F.frames bs ++ part) (hsize : F.size (buf.take F.len) = some body.length)
    (hlen : buf.length = F.len + body.length) (hbody : body = buf.drop F.len) :
    ∃ bs', bs = body :: bs' ∧ rest = F.frames bs' ++ part := by
  cases bs with
  | nil =>
    -- the sender has not finished its frame
    have hs' : buf ++ rest = part := hs
    rcases hpart with hnil | ⟨b, hb, hpre, hlt⟩
    · rw [hnil] at hs'
      rw [(List.append_eq_nil_iff.mp hs').1] at hlen
      have := F.len_pos
      simp at hlen
      omega
    · have hsz := size_take hb (by omega) (.inl (hs'.symm ▸ hpre))
      rw [hsize] at hsz
      have heq : body.length = b.length := Option.some.inj hsz
      rw [frame_length hb, ← hs', List.length_append] at hlt
      omega
  | cons b bs =>
    have hb := hbs b (List.mem_cons_self ..)
    have hs' : buf ++ rest = F.frame b ++ (F.frames bs ++ part) := by
      rw [hs, frames_cons, List.append_assoc]
    have hsz := size_take hb (by omega) (.inr (hs'.symm ▸ List.prefix_append _ _))
    rw [hsize] at hsz
    have heq : body.length = b.length := Option.some.inj hsz
    have hl : buf.length = (F.frame b).length := by rw [frame_length hb, hlen, heq]
    obtain ⟨hbuf, hrest⟩ := List.append_inj hs' hl
    refine ⟨bs, ?_, hrest⟩
    have hdrop : buf.drop F.len = b := by
      rw [hbuf]
      exact List.drop_left' (F.header_length b hb)
    rw [hbody, hdrop]

end Framing

/-! ## Programs -/

/-- `E` is how sending and receiving may fail, `A q` the answers to `q`. -/
inductive Prog (E Q : Type) (A : Q → Type) (R : Type) : Type where
  | ret (r : R)
  | send (body : Bytes) (k : Except E Unit → Prog E Q A R)
  | recv (k : Except E Bytes → Prog E Q A R)
  | call (q : Q) (k : A q → Prog E Q A R)

inductive Did (E Q : Type) (A : Q → Type) : Type where
  | sent (body : Bytes)
  | got (body : Bytes)
  | asked (q : Q) (a : A q)
  | failed (e : E)

section
variable {E Q R : Type} {A : Q → Type}

def Did.sent? : Did E Q A → Option Bytes
  | .sent b => some b
  | _ => none

def Did.got? : Did E Q A → Option Bytes
  | .got b => some b
  | _ => none

def sents (l : List (Did E Q A)) : List Bytes := l.filterMap Did.sent?

def gots (l : List (Did E Q A)) : List Bytes := l.filterMap Did.got?

/-- Doing `l` takes the first program to the second. -/
inductive Follows : Prog E Q A R → List (Did E Q A) → Prog E Q A R → Prop where
  | nil (p) : Follows p [] p
  | sent {b k l p} : Follows (k (.ok ())) l p → Follows (.send b k) (.sent b :: l) p
  | unsent {b k e l p} : Follows (k (.error e)) l p → Follows (.send b k) (.failed e :: l) p
  | got {b k l p} : Follows (k (.ok b)) l p → Follows (.recv k) (.got b :: l) p
  | ungot {k e l p} : Follows (k (.error e)) l p → Follows (.recv k) (.failed e :: l) p
  | asked {q k a l p} : Follows (k a) l p → Follows (.call q k) (.asked q a :: l) p

theorem Follows.trans {p q r : Prog E Q A R} {l m : List (Did E Q A)} (h : Follows p l q)
    (h' : Follows q m r) : Follows p (l ++ m) r := by
  induction h with
  | nil => exact h'
  | sent _ ih => exact .sent (ih h')
  | unsent _ ih => exact .unsent (ih h')
  | got _ ih => exact .got (ih h')
  | ungot _ ih => exact .ungot (ih h')
  | asked _ ih => exact .asked (ih h')

end

section
variable {E Q R : Type} {A : Q → Type} {l : List (Did E Q A)} {p : Prog E Q A R}

theorem Follows.of_ret {r : R} (h : Follows (.ret r) l p) : l = [] ∧ p = .ret r := by
  cases h
  exact ⟨rfl, rfl⟩

theorem Follows.of_call {q : Q} {k : A q → Prog E Q A R} (h : Follows (.call q k) l p) :
    (l = [] ∧ p = .call q k) ∨ ∃ a l', l = .asked q a :: l' ∧ Follows (k a) l' p := by
  cases h with
  | nil => exact .inl ⟨rfl, rfl⟩
  | asked h => exact .inr ⟨_, _, rfl, h⟩

theorem Follows.of_send {b : Bytes} {k : Except E Unit → Prog E Q A R} (h : Follows (.send b k) l p) :
    (l = [] ∧ p = .send b k) ∨ (∃ l', l = .sent b :: l' ∧ Follows (k (.ok ())) l' p) ∨
      ∃ e l', l = .failed e :: l' ∧ Follows (k (.error e)) l' p := by
  cases h with
  | nil => exact .inl ⟨rfl, rfl⟩
  | sent h => exact .inr (.inl ⟨_, rfl, h⟩)
  | unsent h => exact .inr (.inr ⟨_, _, rfl, h⟩)

theorem Follows.of_recv {k : Except E Bytes → Prog E Q A R} (h : Follows (.recv k) l p) :
    (l = [] ∧ p = .recv k) ∨ (∃ b l', l = .got b :: l' ∧ Follows (k (.ok b)) l' p) ∨
      ∃ e l', l = .failed e :: l' ∧ Follows (k (.error e)) l' p := by
  cases h with
  | nil => exact .inl ⟨rfl, rfl⟩
  | got h => exact .inr (.inl ⟨_, _, rfl, h⟩)
  | ungot h => exact .inr (.inr ⟨_, _, rfl, h⟩)

end

/-! ## A program under way -/

/-- `buf` is what it has of the frame it reads, `off` how much is out of the
one it sends. After a failure the connection is of no more use to it. -/
structure Party (E Q : Type) (A : Q → Type) (R : Type) where
  prog : Prog E Q A R
  log : List (Did E Q A) := []
  buf : Bytes := []
  off : Nat := 0
  broken : Bool := false

namespace Party
variable {E Q R : Type} {A : Q → Type} (F : Framing) (tooLarge : E)

/-- One `write` that takes at most `n` bytes. -/
def write (n : Nat) (p : Party E Q A R) : Party E Q A R × Bytes :=
  match p.prog with
  | .send b k =>
    if p.broken then (p, [])
    else if F.fits b = false
      then ({ p with prog := k (.error tooLarge), log := p.log ++ [.failed tooLarge],
                     broken := true }, [])
    else
      let out := ((F.frame b).drop p.off).take n
      if p.off + out.length < (F.frame b).length then ({ p with off := p.off + out.length }, out)
      else ({ p with prog := k (.ok ()), log := p.log ++ [.sent b], off := 0 }, out)
  | _ => (p, [])

/-- One `read` that returns at most `n` bytes of what is there, and what it
leaves. -/
def read (n : Nat) (pipe : Bytes) (p : Party E Q A R) : Party E Q A R × Bytes :=
  match p.prog with
  | .recv k =>
    if p.broken then (p, pipe)
    else
      let m := min n (F.missing p.buf)
      let buf := p.buf ++ pipe.take m
      match F.parse buf with
      | .more => ({ p with buf }, pipe.drop m)
      | .bad =>
        ({ p with prog := k (.error tooLarge), log := p.log ++ [.failed tooLarge], broken := true },
          pipe.drop m)
      | .done body =>
        ({ p with prog := k (.ok body), log := p.log ++ [.got body], buf := [] }, pipe.drop m)
  | _ => (p, pipe)

/-- Sending or receiving fails. -/
def fail (e : E) (p : Party E Q A R) : Party E Q A R :=
  match p.prog with
  | .send _ k => { p with prog := k (.error e), log := p.log ++ [.failed e], broken := true }
  | .recv k => { p with prog := k (.error e), log := p.log ++ [.failed e], broken := true }
  | _ => p

/-- The question `q` is answered. -/
def answered (p : Party E Q A R) {q : Q} (k : A q → Prog E Q A R) (a : A q) : Party E Q A R :=
  { p with prog := k a, log := p.log ++ [.asked q a] }

/-- A step on the connection: the program waits where it was, or it goes on
behind what it sent or received, or failed to. -/
def Moves (p p' : Party E Q A R) : Prop :=
  p'.prog = p.prog ∧ p'.log = p.log ∨
    ((∃ b k r, p.prog = .send b k ∧ p'.prog = k r) ∨ ∃ k r, p.prog = .recv k ∧ p'.prog = k r) ∧
      ∃ d, p'.log = p.log ++ [d] ∧ ∀ q a, d ≠ .asked q a

theorem write_moves (p : Party E Q A R) (n : Nat) : p.Moves (p.write F tooLarge n).1 := by
  unfold write
  split
  · next b k hp =>
    split
    · exact .inl ⟨rfl, rfl⟩
    · split
      · exact .inr ⟨.inl ⟨b, k, _, hp, rfl⟩, _, rfl, (fun _ _ h => nomatch h)⟩
      · dsimp only
        split
        · exact .inl ⟨rfl, rfl⟩
        · exact .inr ⟨.inl ⟨b, k, _, hp, rfl⟩, _, rfl, (fun _ _ h => nomatch h)⟩
  · exact .inl ⟨rfl, rfl⟩

theorem read_moves (p : Party E Q A R) (n : Nat) (pipe : Bytes) :
    p.Moves (p.read F tooLarge n pipe).1 := by
  unfold read
  split
  · next k hp =>
    split
    · exact .inl ⟨rfl, rfl⟩
    · dsimp only
      split
      · exact .inl ⟨rfl, rfl⟩
      · exact .inr ⟨.inr ⟨k, _, hp, rfl⟩, _, rfl, (fun _ _ h => nomatch h)⟩
      · exact .inr ⟨.inr ⟨k, _, hp, rfl⟩, _, rfl, (fun _ _ h => nomatch h)⟩
  · exact .inl ⟨rfl, rfl⟩

theorem fail_moves (p : Party E Q A R) (e : E) : p.Moves (p.fail e) := by
  unfold fail
  split
  · next b k hp => exact .inr ⟨.inl ⟨b, k, _, hp, rfl⟩, _, rfl, (fun _ _ h => nomatch h)⟩
  · next k hp => exact .inr ⟨.inr ⟨k, _, hp, rfl⟩, _, rfl, (fun _ _ h => nomatch h)⟩
  · exact .inl ⟨rfl, rfl⟩

end Party

/-! ## The connection -/

section
variable {E Q R E' Q' R' : Type} {A : Q → Type} {A' : Q' → Type} {F : Framing}

/-- `part` is what `a` has out of the frame it sends. -/
def Under (F : Framing) (a : Party E Q A R) (part : Bytes) : Prop :=
  a.broken = false → a.off = part.length ∧
    (part = [] ∨ ∃ b k, a.prog = .send b k ∧ part = (F.frame b).take a.off)

/-- What `a` has sent is what `b` got, what `b` has in its buffer and what is
in the pipe, as long as `b` reads. -/
structure Pipe (F : Framing) (a : Party E Q A R) (pipe : Bytes) (b : Party E' Q' A' R') : Prop where
  fits : ∀ x ∈ sents a.log, F.fits x = true
  received : gots b.log <+: sents a.log
  stream : b.broken = false → F.parse b.buf = .more ∧
    ∃ part, F.frames (gots b.log) ++ (b.buf ++ pipe) = F.frames (sents a.log) ++ part ∧
    Framing.Part F part ∧ Under F a part

variable {a a' : Party E Q A R} {b b' : Party E' Q' A' R'} {pipe : Bytes}

theorem Pipe.start (p : Prog E Q A R) (q : Prog E' Q' A' R') :
    Pipe F ({ prog := p } : Party E Q A R) [] ({ prog := q } : Party E' Q' A' R') :=
  ⟨(fun _ hx => nomatch hx), List.prefix_refl _,
    fun _ => ⟨Framing.parse_nil, [], rfl, .inl rfl, fun _ => ⟨rfl, .inl rfl⟩⟩⟩

theorem sents_snoc (l : List (Did E Q A)) (d : Did E Q A) :
    sents (l ++ [d]) = sents l ++ (d.sent?).toList := by
  unfold sents
  rw [List.filterMap_append]
  cases d <;> rfl

theorem gots_snoc (l : List (Did E Q A)) (d : Did E Q A) :
    gots (l ++ [d]) = gots l ++ (d.got?).toList := by
  unfold gots
  rw [List.filterMap_append]
  cases d <;> rfl

/-- The sender does something else than send. -/
theorem Pipe.sender (h : Pipe F a pipe b) (hlog : sents a'.log = sents a.log)
    (hkeep : a'.broken = false → a.broken = false ∧ a'.off = a.off ∧
      ((∀ x k, a.prog ≠ .send x k) ∨ a'.prog = a.prog)) :
    Pipe F a' pipe b := by
  refine ⟨hlog ▸ h.fits, hlog ▸ h.received, fun hb => ?_⟩
  obtain ⟨hbuf, part, hs, hpart, hunder⟩ := h.stream hb
  refine ⟨hbuf, part, hlog ▸ hs, hpart, fun ha => ?_⟩
  obtain ⟨hbr, hoff, hprog⟩ := hkeep ha
  obtain ⟨h1, h2⟩ := hunder hbr
  refine ⟨hoff.trans h1, ?_⟩
  rcases h2 with h2 | ⟨x, k, hp, h2⟩
  · exact .inl h2
  · rcases hprog with hno | hsame
    · exact absurd hp (hno x k)
    · exact .inr ⟨x, k, hsame.trans hp, hoff ▸ h2⟩

/-- The receiver does something else than receive. -/
theorem Pipe.receiver (h : Pipe F a pipe b) (hlog : gots b'.log = gots b.log)
    (hkeep : b'.broken = false → b.broken = false ∧ b'.buf = b.buf) : Pipe F a pipe b' := by
  refine ⟨h.fits, hlog ▸ h.received, fun hb => ?_⟩
  obtain ⟨hbr, hbuf⟩ := hkeep hb
  obtain ⟨h1, part, hs, hpart, hunder⟩ := h.stream hbr
  exact ⟨hbuf ▸ h1, part, by rw [hlog, hbuf]; exact hs, hpart, hunder⟩

/-! ### Sending -/

/-- **Step.** The sender writes. -/
theorem Pipe.write (h : Pipe F a pipe b) (tooLarge : E) (n : Nat) :
    Pipe F (a.write F tooLarge n).1 (pipe ++ (a.write F tooLarge n).2) b := by
  unfold Party.write
  split
  · next x k hp =>
    split
    · rw [List.append_nil]
      exact h
    · next hbr =>
      split
      · -- too large: nothing goes out
        rw [List.append_nil]
        refine h.sender ?_ (fun hc => nomatch hc)
        rw [sents_snoc]
        exact List.append_nil _
      · next hfit =>
        have hfit : F.fits x = true := by simpa using hfit
        have hbr : a.broken = false := by simpa using hbr
        -- with what is out, the pieces are the front of the frame
        let out := ((F.frame x).drop a.off).take n
        have hfront : ∀ part, Under F a part → part ++ out = (F.frame x).take (a.off + out.length) := by
          intro part hu
          obtain ⟨hoff, hu⟩ := hu hbr
          have hpart : part = (F.frame x).take a.off := by
            rcases hu with hnil | ⟨y, k', hp', hpart⟩
            · rw [hoff, hnil, List.length_nil, List.take_zero]
            · rw [hp] at hp'
              cases hp'
              exact hpart
          have hout : out = ((F.frame x).drop a.off).take out.length := by
            rw [← List.prefix_iff_eq_take]
            exact List.take_prefix ..
          rw [List.take_add, ← hpart, ← hout]
        have hstream : b.broken = false → F.parse b.buf = .more ∧ ∃ part, Under F a part ∧
            F.frames (gots b.log) ++ (b.buf ++ (pipe ++ out)) = F.frames (sents a.log) ++
            (part ++ out) := by
          intro hb
          obtain ⟨hbuf, part, hs, -, hu⟩ := h.stream hb
          refine ⟨hbuf, part, hu, ?_⟩
          rw [← List.append_assoc b.buf, ← List.append_assoc, hs, List.append_assoc]
        simp only
        split
        · next hmore =>
          refine ⟨h.fits, h.received, fun hb => ?_⟩
          obtain ⟨hbuf, part, hu, hs⟩ := hstream hb
          have hlen : ((F.frame x).take (a.off + out.length)).length = a.off + out.length := by
            rw [List.length_take, min_eq_left (Nat.le_of_lt hmore)]
          rw [hfront part hu] at hs
          exact ⟨hbuf, _, hs, .inr ⟨x, hfit, List.take_prefix .., by rw [hlen]; exact hmore⟩,
            fun _ => ⟨hlen.symm, .inr ⟨x, k, hp, rfl⟩⟩⟩
        · next hdone =>
          have hsents : sents (a.log ++ [.sent x]) = sents a.log ++ [x] := sents_snoc ..
          refine ⟨?_, ?_, fun hb => ?_⟩
          · show ∀ y ∈ sents (a.log ++ [.sent x]), F.fits y = true
            intro y hy
            rw [hsents] at hy
            rcases List.mem_append.mp hy with hy | hy
            · exact h.fits y hy
            · rw [List.mem_singleton.mp hy]
              exact hfit
          · show gots b.log <+: sents (a.log ++ [.sent x])
            rw [hsents]
            exact h.received.trans (List.prefix_append _ _)
          · obtain ⟨hbuf, part, hu, hs⟩ := hstream hb
            refine ⟨hbuf, [], ?_, .inl rfl, fun _ => ⟨rfl, .inl rfl⟩⟩
            show F.frames (gots b.log) ++ (b.buf ++ (pipe ++ out)) =
                F.frames (sents (a.log ++ [.sent x])) ++ []
            rw [hsents, Framing.frames_snoc, List.append_nil, hs, hfront part hu,
              List.take_of_length_le (Nat.le_of_not_lt hdone)]
  · rw [List.append_nil]
    exact h

/-! ### Receiving -/

/-- **Step.** The receiver reads. -/
theorem Pipe.read (h : Pipe F a pipe b) (tooLarge : E') (n : Nat) :
    Pipe F a (b.read F tooLarge n pipe).2 (b.read F tooLarge n pipe).1 := by
  unfold Party.read
  split
  · next k hp =>
    split
    · exact h
    · next hbr =>
      have hbr : b.broken = false := by simpa using hbr
      obtain ⟨hbuf, part, hs, hpart, hu⟩ := h.stream hbr
      let m := min n (F.missing b.buf)
      have hsplit : F.frames (gots b.log) ++ ((b.buf ++ pipe.take m) ++ pipe.drop m) =
          F.frames (sents a.log) ++ part := by
        rw [List.append_assoc, List.take_append_drop]
        exact hs
      simp only
      split
      · next hmore => exact ⟨h.fits, h.received, fun _ => ⟨hmore, part, hsplit, hpart, hu⟩⟩
      · refine ⟨h.fits, ?_, (fun hc => nomatch hc)⟩
        show gots (b.log ++ [.failed tooLarge]) <+: sents a.log
        rw [gots_snoc]
        exact (List.append_nil (gots b.log)).symm ▸ h.received
      · next body hdone =>
        have hlen : (pipe.take m).length ≤ F.missing b.buf := by
          rw [List.length_take]
          omega
        obtain ⟨hsize, hfull, hbody⟩ := Framing.parse_done hbuf hlen hdone
        obtain ⟨rest, hrest⟩ := h.received
        -- what `b` already got is off the front
        have hfront : (b.buf ++ pipe.take m) ++ pipe.drop m = F.frames rest ++ part := by
          rw [← hrest, Framing.frames_append, List.append_assoc (F.frames _) (F.frames _)] at hsplit
          exact List.append_cancel_left hsplit
        have hfits : ∀ x ∈ rest, F.fits x = true :=
          fun x hx => h.fits x (hrest ▸ List.mem_append_right _ hx)
        obtain ⟨bs, hbs, hleft⟩ := Framing.read_frame hfits hpart hfront hsize hfull hbody
        have hgots : gots (b.log ++ [.got body]) = gots b.log ++ [body] := gots_snoc ..
        have hsents : (gots b.log ++ [body]) ++ bs = sents a.log := by
          rw [List.append_assoc, List.singleton_append, ← hbs, hrest]
        refine ⟨h.fits, ?_, fun _ => ⟨Framing.parse_nil, part, ?_, hpart, hu⟩⟩
        · show gots (b.log ++ [.got body]) <+: sents a.log
          rw [hgots]
          exact ⟨bs, hsents⟩
        · show F.frames (gots (b.log ++ [.got body])) ++ ([] ++ pipe.drop m) =
              F.frames (sents a.log) ++ part
          rw [hgots, List.nil_append, hleft, ← List.append_assoc, ← Framing.frames_append, hsents]
  · exact h

/-! ### Both directions -/

/-- The two programs and what lies between them. -/
structure Linked (F : Framing) (p₀ : Prog E Q A R) (q₀ : Prog E' Q' A' R') (a : Party E Q A R)
    (b : Party E' Q' A' R')
    (up down : Bytes) : Prop where
  up : Pipe F a up b
  down : Pipe F b down a
  left : Follows p₀ a.log a.prog
  right : Follows q₀ b.log b.prog

variable {p₀ : Prog E Q A R} {q₀ : Prog E' Q' A' R'} {up down : Bytes}

theorem Linked.start (F : Framing) (p₀ : Prog E Q A R) (q₀ : Prog E' Q' A' R') :
    Linked F p₀ q₀ { prog := p₀ } { prog := q₀ } [] [] :=
  ⟨.start .., .start .., .nil _, .nil _⟩

theorem Linked.symm (h : Linked F p₀ q₀ a b up down) : Linked F q₀ p₀ b a down up :=
  ⟨h.down, h.up, h.right, h.left⟩

/-- The bodies either side got are the first of those the other sent. -/
theorem Linked.received (h : Linked F p₀ q₀ a b up down) :
    gots b.log <+: sents a.log ∧ gots a.log <+: sents b.log :=
  ⟨h.up.received, h.down.received⟩

theorem Linked.write (h : Linked F p₀ q₀ a b up down) (tooLarge : E) (n : Nat) :
    Linked F p₀ q₀ (a.write F tooLarge n).1 b (up ++ (a.write F tooLarge n).2) down := by
  have hfollow : Follows p₀ (a.write F tooLarge n).1.log (a.write F tooLarge n).1.prog ∧
      gots (a.write F tooLarge n).1.log = gots a.log ∧ (a.write F tooLarge n).1.buf = a.buf ∧
      ((a.write F tooLarge n).1.broken = false → a.broken = false) := by
    have hleft := h.left
    unfold Party.write
    split
    · next x k hp =>
      rw [hp] at hleft
      split
      · exact ⟨h.left, rfl, rfl, fun hc => hc⟩
      · split
        · refine ⟨hleft.trans (.unsent (.nil _)), ?_, rfl, (fun hc => nomatch hc)⟩
          rw [gots_snoc]
          exact List.append_nil _
        · simp only
          split
          · exact ⟨h.left, rfl, rfl, fun hc => hc⟩
          · refine ⟨hleft.trans (.sent (.nil _)), ?_, rfl, fun hc => hc⟩
            rw [gots_snoc]
            exact List.append_nil _
    · exact ⟨h.left, rfl, rfl, fun hc => hc⟩
  obtain ⟨hf, hg, hbuf, hbr⟩ := hfollow
  exact ⟨h.up.write tooLarge n, h.down.receiver hg fun hc => ⟨hbr hc, hbuf⟩, hf, h.right⟩

theorem Linked.read (h : Linked F p₀ q₀ a b up down) (tooLarge : E) (n : Nat) :
    Linked F p₀ q₀ (a.read F tooLarge n down).1 b up (a.read F tooLarge n down).2 := by
  have hfollow : Follows p₀ (a.read F tooLarge n down).1.log (a.read F tooLarge n down).1.prog ∧
      sents (a.read F tooLarge n down).1.log = sents a.log ∧ (a.read F tooLarge n down).1.off = a.off ∧
      ((a.read F tooLarge n down).1.broken = false → a.broken = false ∧
        ((∀ x k, a.prog ≠ .send x k) ∨ (a.read F tooLarge n down).1.prog = a.prog)) := by
    have hleft := h.left
    unfold Party.read
    split
    · next k hp =>
      rw [hp] at hleft
      have hno : ∀ x k', a.prog ≠ .send x k' := by
        intro x k' hc
        rw [hp] at hc
        cases hc
      split
      · exact ⟨h.left, rfl, rfl, fun hc => ⟨hc, .inl hno⟩⟩
      · simp only
        split
        · exact ⟨h.left, rfl, rfl, fun hc => ⟨hc, .inl hno⟩⟩
        · refine ⟨hleft.trans (.ungot (.nil _)), ?_, rfl, (fun hc => nomatch hc)⟩
          rw [sents_snoc]
          exact List.append_nil _
        · refine ⟨hleft.trans (.got (.nil _)), ?_, rfl, fun hc => ⟨hc, .inl hno⟩⟩
          rw [sents_snoc]
          exact List.append_nil _
    · exact ⟨h.left, rfl, rfl, fun hc => ⟨hc, .inr rfl⟩⟩
  obtain ⟨hf, hg, hoff, hbr⟩ := hfollow
  exact ⟨h.up.sender hg fun hc => ⟨(hbr hc).1, hoff, (hbr hc).2⟩, h.down.read tooLarge n, hf, h.right⟩

theorem Linked.fail (h : Linked F p₀ q₀ a b up down) (e : E) : Linked F p₀ q₀ (a.fail e) b up down := by
  have hleft := h.left
  have hsame : ∀ p' : Prog E Q A R, Follows a.prog [.failed e] p' →
      Linked F p₀ q₀ { a with prog := p', log := a.log ++ [.failed e], broken := true } b up down := by
    intro p' hp'
    refine ⟨h.up.sender ?_ (fun hc => nomatch hc), h.down.receiver ?_ (fun hc => nomatch hc),
      h.left.trans hp', h.right⟩
    · show sents (a.log ++ [.failed e]) = _
      rw [sents_snoc]
      exact List.append_nil _
    · show gots (a.log ++ [.failed e]) = _
      rw [gots_snoc]
      exact List.append_nil _
  unfold Party.fail
  split
  · next x k hp => exact hsame _ (hp ▸ .unsent (.nil _))
  · next k hp => exact hsame _ (hp ▸ .ungot (.nil _))
  · exact h

theorem Linked.answered (h : Linked F p₀ q₀ a b up down) {q : Q} {k : A q → Prog E Q A R}
    (hq : a.prog = .call q k) (x : A q) : Linked F p₀ q₀ (a.answered k x) b up down := by
  refine ⟨h.up.sender ?_ fun hc => ⟨hc, rfl, .inl fun y k' hc => ?_⟩,
    h.down.receiver ?_ fun hc => ⟨hc, rfl⟩, ?_, h.right⟩
  · show sents (a.log ++ [.asked q x]) = _
    rw [sents_snoc]
    exact List.append_nil _
  · rw [hq] at hc
    cases hc
  · show gots (a.log ++ [.asked q x]) = _
    rw [gots_snoc]
    exact List.append_nil _
  · exact h.left.trans (hq ▸ .asked (.nil _))

end

end Lota.Core.Dialogue
