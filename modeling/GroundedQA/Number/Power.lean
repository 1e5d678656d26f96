/-!
# Powers

Bounds and scales are written as powers. The power `x ^ n` of numbers is always the one that the
numbers come with, also where more general powers are in scope, so that a bound means the same
wherever it is stated.
-/

attribute [instance (2000), default_instance (20000)] instPowNat
