/-!
# Integer square roots

`integerRoot n` is the greatest natural number whose square is at most `n`, found one binary digit
at a time.
-/

namespace AdaptiveStep

/-- The root of `n < 4 ^ k`. Dropping two binary digits of the radicand drops one of the root. -/
def rootBelow : Nat → Nat → Nat
  | 0, _ => 0
  | k + 1, n =>
    let r := 2 * rootBelow k (n / 4)
    if (r + 1) * (r + 1) ≤ n then r + 1 else r

def integerRoot (n : Nat) : Nat :=
  rootBelow (n.log2 / 2 + 1) n

end AdaptiveStep
