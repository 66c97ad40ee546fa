import ChatLink.Text.Mark

/-!
# Letters that join

In some scripts letters join with their neighbours in a word. Marks between two letters do not
keep them apart. The table is about the characters that a name may hold.
-/

namespace ChatLink.Text

/-- Which neighbours a character joins with. -/
inductive Joining where
  | alone
  | next
  | previous
  | both
  /-- A mark, through which its neighbours join. -/
  | through
  deriving DecidableEq, Repr

/-- Where runs of characters that join alike begin, nonspacing marks left out. -/
def joiningRuns : Array (Nat × Joining) := (#[
  #[(0x620, .both), (0x621, .alone), (0x622, .previous)],
  #[(0x626, .both), (0x627, .previous), (0x628, .both)],
  #[(0x629, .previous), (0x62a, .both), (0x62f, .previous)],
  #[(0x633, .both), (0x640, .alone), (0x641, .both)],
  #[(0x648, .previous), (0x649, .both), (0x660, .alone)],
  #[(0x66e, .both), (0x671, .previous), (0x674, .alone)],
  #[(0x679, .both), (0x688, .previous), (0x69a, .both)],
  #[(0x6c0, .previous), (0x6c1, .both), (0x6c3, .previous)],
  #[(0x6cc, .both), (0x6cd, .previous), (0x6ce, .both)],
  #[(0x6cf, .previous), (0x6d0, .both), (0x6d2, .previous)],
  #[(0x6d4, .alone), (0x6d5, .previous), (0x6de, .alone)],
  #[(0x6ee, .previous), (0x6f0, .alone), (0x6fa, .both)],
  #[(0x6fd, .alone), (0x6ff, .both), (0x700, .alone)],
  #[(0x710, .previous), (0x712, .both), (0x715, .previous)],
  #[(0x71a, .both), (0x71e, .previous), (0x71f, .both)],
  #[(0x728, .previous), (0x729, .both), (0x72a, .previous)],
  #[(0x72b, .both), (0x72c, .previous), (0x72d, .both)],
  #[(0x72f, .previous), (0x74e, .both), (0x759, .previous)],
  #[(0x75c, .both), (0x76b, .previous), (0x76d, .both)],
  #[(0x771, .previous), (0x772, .both), (0x773, .previous)],
  #[(0x775, .both), (0x778, .previous), (0x77a, .both)],
  #[(0x780, .alone), (0x7ca, .both), (0x7f4, .alone)],
  #[(0x840, .previous), (0x841, .both), (0x846, .previous)],
  #[(0x848, .both), (0x849, .previous), (0x84a, .both)],
  #[(0x854, .previous), (0x855, .both), (0x856, .previous)],
  #[(0x85e, .alone), (0x860, .both), (0x861, .alone)],
  #[(0x862, .both), (0x866, .alone), (0x867, .previous)],
  #[(0x868, .both), (0x869, .previous), (0x883, .alone)],
  #[(0x886, .both), (0x887, .alone), (0x889, .both)],
  #[(0x88e, .previous), (0x88f, .both), (0x8aa, .previous)],
  #[(0x8ad, .alone), (0x8ae, .previous), (0x8af, .both)],
  #[(0x8b1, .previous), (0x8b3, .both), (0x8b9, .previous)],
  #[(0x8ba, .both), (0x8c9, .alone), (0x1807, .both)],
  #[(0x1808, .alone), (0x1820, .both), (0x1880, .alone)],
  #[(0x1887, .both), (0x18b0, .alone), (0xa840, .both)],
  #[(0xa872, .next), (0xa873, .alone), (0x10ac0, .both)],
  #[(0x10ac5, .previous), (0x10ac6, .alone), (0x10ac7, .previous)],
  #[(0x10ac8, .alone), (0x10ac9, .previous), (0x10acb, .alone)],
  #[(0x10acd, .next), (0x10ace, .previous), (0x10ad3, .both)],
  #[(0x10ad7, .next), (0x10ad8, .both), (0x10add, .previous)],
  #[(0x10ade, .both), (0x10ae1, .previous), (0x10ae2, .alone)],
  #[(0x10ae4, .previous), (0x10aeb, .both), (0x10aef, .previous)],
  #[(0x10af0, .alone), (0x10b80, .both), (0x10b81, .previous)],
  #[(0x10b82, .both), (0x10b83, .previous), (0x10b86, .both)],
  #[(0x10b89, .previous), (0x10b8a, .both), (0x10b8c, .previous)],
  #[(0x10b8d, .both), (0x10b8e, .previous), (0x10b90, .both)],
  #[(0x10b91, .previous), (0x10b99, .alone), (0x10ba9, .previous)],
  #[(0x10bad, .both), (0x10baf, .alone), (0x10d00, .next)],
  #[(0x10d01, .both), (0x10d22, .previous), (0x10d23, .both)],
  #[(0x10d30, .alone), (0x10ec2, .previous), (0x10ec3, .both)],
  #[(0x10ec5, .alone), (0x10ec6, .both), (0x10ed0, .alone)],
  #[(0x10f30, .both), (0x10f33, .previous), (0x10f34, .both)],
  #[(0x10f45, .alone), (0x10f51, .both), (0x10f54, .previous)],
  #[(0x10f55, .alone), (0x10f70, .both), (0x10f74, .previous)],
  #[(0x10f76, .both), (0x10f86, .alone), (0x10fb0, .both)],
  #[(0x10fb1, .alone), (0x10fb2, .both), (0x10fb4, .previous)],
  #[(0x10fb7, .alone), (0x10fb8, .both), (0x10fb9, .previous)],
  #[(0x10fbb, .both), (0x10fbd, .previous), (0x10fbe, .both)],
  #[(0x10fc0, .alone), (0x10fc1, .both), (0x10fc2, .previous)],
  #[(0x10fc4, .both), (0x10fc5, .alone), (0x10fc9, .previous)],
  #[(0x10fca, .both), (0x10fcb, .next), (0x10fe0, .alone)],
  #[(0x1e922, .both), (0x1e94b, .through), (0x1e950, .alone)]
  ] : Array (Array (Nat × Joining))).flatten

/-- Which neighbours a character joins with. -/
def joining (n : Nat) : Joining :=
  if isNonspacing n then .through else valueAt joiningRuns .alone n

end ChatLink.Text
