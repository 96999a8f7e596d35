/-!
# Trace numbers

A system trace audit number (STAN) has six decimal digits. A counter issues them one after
another and goes from 999999 on to 000000, so each is issued once per cycle.

Main statements: `last_next` (issuing adds one modulo a million) and `last_skip`.
-/

namespace Multiplex

/-- The counter of one link, which holds the number issued last. -/
structure Stan where
  last : Nat
  last_le : last ≤ 999999

namespace Stan

/-- The counter that issues 000001 first. -/
def fresh : Stan :=
  ⟨0, Nat.zero_le _⟩

instance : Inhabited Stan := ⟨fresh⟩

/-- The counter that goes on after `n`, or after 999999 if `n` is greater. -/
def startingAfter (n : Nat) : Stan :=
  ⟨min n 999999, Nat.min_le_right n 999999⟩

/-- The counter after one more number has been issued. -/
def next (stan : Stan) : Stan :=
  if h : stan.last < 999999 then ⟨stan.last + 1, h⟩ else ⟨0, Nat.zero_le _⟩

/-- Six decimal digits of a number, with leading zeros. -/
def render (n : Nat) : String :=
  String.ofList [Nat.digitChar (n / 100000 % 10), Nat.digitChar (n / 10000 % 10),
    Nat.digitChar (n / 1000 % 10), Nat.digitChar (n / 100 % 10), Nat.digitChar (n / 10 % 10),
    Nat.digitChar (n % 10)]

/-- The number issued last, as it is written into a message. -/
def text (stan : Stan) : String :=
  render stan.last

/-- The counter after `n` more numbers have been issued. -/
def skip : Nat → Stan → Stan
  | 0, stan => stan
  | n + 1, stan => skip n stan.next

/-- The next `n` numbers and the counter after them. -/
def issue : Nat → Stan → List String × Stan
  | 0, stan => ([], stan)
  | n + 1, stan =>
    let (texts, final) := issue n stan.next
    (stan.next.text :: texts, final)

/-- Issuing a number adds one modulo a million. -/
theorem last_next (stan : Stan) : stan.next.last = (stan.last + 1) % 1000000 := by
  have le := stan.last_le
  unfold next
  split
  · next h => show stan.last + 1 = _; omega
  · next h => show 0 = _; omega

/-- Issuing `n` numbers adds `n` modulo a million. -/
theorem last_skip (n : Nat) (stan : Stan) : (skip n stan).last = (stan.last + n) % 1000000 := by
  induction n generalizing stan with
  | zero =>
    have le := stan.last_le
    show stan.last = _
    omega
  | succ n ih =>
    show (skip n stan.next).last = _
    rw [ih, last_next]
    omega

end Stan

end Multiplex
