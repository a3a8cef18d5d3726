import BraceTemplate.Text.RangeTable

/-!
# BraceTemplate.Pattern.PropertyTables

Character properties that a pattern can name: the general category of every code point, the
scripts, letters by case, and the characters that differ in case only.
-/

namespace BraceTemplate.Pattern

/-- Names of the general categories, in the order in which the table numbers them. -/
def categoryNames : List String :=
  ["LU", "LL", "LT", "LM", "LO", "MN", "MC", "ME", "ND", "NL", "NO", "PC", "PD", "PS", "PE", "PI",
   "PF", "PO", "SM", "SC", "SK", "SO", "ZS", "ZL", "ZP", "CC", "CF", "CS", "CO", "CN"]

/-- Lengths of runs of code points and the number of their general category, from 0 on. -/
def categoryRuns : String :=
  "w p 1 m 3 h 1 j 3 h 1 d 1 e 1 h 1 i 1 h 1 c 2 h a 8 2 h 3 i 2 h q 0 1 d 1 h 1 e 1 k 1 b 1 k
   q 1 1 d 1 i 1 e 1 i x p 1 m 1 h 4 j 1 l 1 h 1 k 1 l 1 4 1 f 1 i 1 q 1 l 1 k 1 l 1 i 2 a 1 k
   1 1 2 h 1 k 1 a 1 4 1 g 3 a 1 h n 0 1 i 7 0 o 1 1 i 8 1 1 0 1 1 1 0 1 1 1 0 1 1 1 0 1 1 1 0
   1 1 1 0 1 1 1 0 1 1 1 0 1 1 1 0 1 1 1 0 1 1 1 0 1 1 1 0 1 1 1 0 1 1 1 0 1 1 1 0 1 1 1 0 1 1
   1 0 1 1 1 0 1 1 1 0 1 1 1 0 1 1 1 0 1 1 1 0 1 1 1 0 1 1 1 0 1 1 1 0 1 1 1 0 1 1 1 0 1 1 1 0
   2 1 1 0 1 1 1 0 1 1 1 0 1 1 1 0 1 1 1 0 1 1 1 0 1 1 1 0 1 1 1 0 2 1 1 0 1 1 1 0 1 1 1 0 1 1
   1 0 1 1 1 0 1 1 1 0 1 1 1 0 1 1 1 0 1 1 1 0 1 1 1 0 1 1 1 0 1 1 1 0 1 1 1 0 1 1 1 0 1 1 1 0
   1 1 1 0 1 1 1 0 1 1 1 0 1 1 1 0 1 1 1 0 1 1 1 0 1 1 1 0 1 1 1 0 1 1 2 0 1 1 1 0 1 1 1 0 3 1
   2 0 1 1 1 0 1 1 2 0 1 1 3 0 2 1 4 0 1 1 2 0 1 1 3 0 3 1 2 0 1 1 2 0 1 1 1 0 1 1 1 0 1 1 2 0
   1 1 1 0 2 1 1 0 1 1 2 0 1 1 3 0 1 1 1 0 1 1 2 0 2 1 1 4 1 0 3 1 4 4 1 0 1 2 1 1 1 0 1 2 1 1
   1 0 1 2 1 1 1 0 1 1 1 0 1 1 1 0 1 1 1 0 1 1 1 0 1 1 1 0 1 1 1 0 1 1 1 0 2 1 1 0 1 1 1 0 1 1
   1 0 1 1 1 0 1 1 1 0 1 1 1 0 1 1 1 0 1 1 1 0 1 1 1 0 2 1 1 0 1 2 1 1 1 0 1 1 3 0 1 1 1 0 1 1
   1 0 1 1 1 0 1 1 1 0 1 1 1 0 1 1 1 0 1 1 1 0 1 1 1 0 1 1 1 0 1 1 1 0 1 1 1 0 1 1 1 0 1 1 1 0
   1 1 1 0 1 1 1 0 1 1 1 0 1 1 1 0 1 1 1 0 1 1 1 0 1 1 1 0 1 1 1 0 1 1 1 0 1 1 1 0 1 1 1 0 1 1
   1 0 1 1 1 0 1 1 1 0 1 1 1 0 1 1 1 0 7 1 2 0 1 1 2 0 2 1 1 0 1 1 4 0 1 1 1 0 1 1 1 0 1 1 1 0
   1 1 1 0 1x 1 2 4 q 1 i 3 4 k c 3 e k 5 3 7 k 1 3 1 k 1 3 h k 34 5 1 0 1 1 1 0 1 1 1 3 1 k 1
   0 1 1 2 t 1 3 3 1 1 h 1 0 4 t 2 k 1 0 1 h 3 0 1 t 1 0 1 t 2 0 1 1 h 0 1 t 9 0 z 1 1 0 2 1 3
   0 3 1 1 0 1 1 1 0 1 1 1 0 1 1 1 0 1 1 1 0 1 1 1 0 1 1 1 0 1 1 1 0 1 1 1 0 1 1 1 0 1 1 1 0 1
   1 1 0 5 1 1 0 1 1 1 i 1 0 1 1 2 0 2 1 1f 0 1c 1 1 0 1 1 1 0 1 1 1 0 1 1 1 0 1 1 1 0 1 1 1 0
   1 1 1 0 1 1 1 0 1 1 1 0 1 1 1 0 1 1 1 0 1 1 1 0 1 1 1 0 1 1 1 0 1 1 1 0 1 1 1 0 1 1 1 0 1 1
   1 l 5 5 2 7 1 0 1 1 1 0 1 1 1 0 1 1 1 0 1 1 1 0 1 1 1 0 1 1 1 0 1 1 1 0 1 1 1 0 1 1 1 0 1 1
   1 0 1 1 1 0 1 1 1 0 1 1 1 0 1 1 1 0 1 1 1 0 1 1 1 0 1 1 1 0 1 1 1 0 1 1 1 0 1 1 1 0 1 1 1 0
   1 1 1 0 1 1 1 0 1 1 1 0 1 1 1 0 1 1 1 0 1 1 2 0 1 1 1 0 1 1 1 0 1 1 1 0 1 1 1 0 1 1 1 0 1 1
   1 0 2 1 1 0 1 1 1 0 1 1 1 0 1 1 1 0 1 1 1 0 1 1 1 0 1 1 1 0 1 1 1 0 1 1 1 0 1 1 1 0 1 1 1 0
   1 1 1 0 1 1 1 0 1 1 1 0 1 1 1 0 1 1 1 0 1 1 1 0 1 1 1 0 1 1 1 0 1 1 1 0 1 1 1 0 1 1 1 0 1 1
   1 0 1 1 1 0 1 1 1 0 1 1 1 0 1 1 1 0 1 1 1 0 1 1 1 0 1 1 1 0 1 1 1 0 1 1 1 0 1 1 1 0 1 1 1 0
   1 1 1 0 1 1 1 0 1 1 1 0 1 1 1 0 1 1 1 0 1 1 1 0 1 1 1 0 1 1 1 0 1 1 1 0 1 1 1 0 1 1 1 0 1 1
   1 0 1 1 1 0 1 1 1 0 1 1 1 t 12 0 2 t 1 3 6 h 15 1 1 h 1 c 2 t 2 l 1 j 1 t 19 5 1 c 1 5 1 h 2
   5 1 h 2 5 1 h 1 5 8 t r 4 4 t 4 4 2 h b t 6 q 3 i 2 h 1 j 2 h 2 l b 5 1 h 1 q 3 h w 4 1 3 a
   4 l 5 a 8 4 h 2 4 1 5 2r 4 1 h 1 4 7 5 1 q 1 l 6 5 2 3 2 5 1 l 4 5 2 4 a 8 3 4 2 l 1 4 e h 1
   t 1 q 1 4 1 5 u 4 r 5 2 t 2h 4 b 5 1 4 e t a 8 x 4 9 5 2 3 1 l 3 h 1 3 2 t 1 5 2 j m 4 4 5 1
   3 9 5 1 3 3 5 1 3 5 5 2 t f h 1 t p 4 3 5 2 t 1 h 1 t b 4 5 t o 4 1 k 7 4 2 q 5 t 9 5 15 4 1
   3 o 5 1 q w 5 1 6 1i 4 1 5 1 6 1 5 1 4 3 6 8 5 4 6 1 5 2 6 1 4 7 5 a 4 2 5 2 h a 8 1 h 1 3 f
   4 1 5 2 6 1 t 8 4 2 t 2 4 2 t m 4 1 t 7 4 1 t 1 4 3 t 4 4 2 t 1 5 1 4 3 6 4 5 2 t 2 6 2 t 2
   6 1 5 1 4 8 t 1 6 4 t 2 4 1 t 3 4 2 5 2 t a 8 2 4 2 j 6 a 1 l 1 j 1 4 1 h 1 5 2 t 2 5 1 6 1
   t 6 4 4 t 2 4 2 t m 4 1 t 7 4 1 t 2 4 1 t 2 4 1 t 2 4 2 t 1 5 1 t 3 6 2 5 4 t 2 5 2 t 3 5 3
   t 1 5 7 t 4 4 1 t 1 4 7 t a 8 2 5 3 4 1 5 1 h a t 2 5 1 6 1 t 9 4 1 t 3 4 1 t m 4 1 t 7 4 1
   t 2 4 1 t 5 4 2 t 1 5 1 4 3 6 5 5 1 t 2 5 1 6 1 t 2 6 1 5 2 t 1 4 f t 2 4 2 5 2 t a 8 1 h 1
   j 7 t 1 4 6 5 1 t 1 5 2 6 1 t 8 4 2 t 2 4 2 t m 4 1 t 7 4 1 t 2 4 1 t 5 4 2 t 1 5 1 4 1 6 1
   5 1 6 4 5 2 t 2 6 2 t 2 6 1 5 7 t 2 5 1 6 4 t 2 4 1 t 3 4 2 5 2 t a 8 1 l 1 4 6 a a t 1 5 1
   4 1 t 6 4 3 t 3 4 1 t 4 4 3 t 2 4 1 t 1 4 1 t 2 4 3 t 2 4 3 t 3 4 3 t c 4 4 t 2 6 1 5 2 6 3
   t 3 6 1 t 3 6 1 5 2 t 1 4 6 t 1 6 e t a 8 3 a 6 l 1 j 1 l 5 t 1 5 3 6 1 5 8 4 1 t 3 4 1 t n
   4 1 t g 4 2 t 1 5 1 4 3 5 4 6 1 t 3 5 1 t 4 5 7 t 2 5 1 t 3 4 1 t 2 4 2 t 2 4 2 5 2 t a 8 7
   t 1 h 7 a 1 l 1 4 1 5 2 6 1 h 8 4 1 t 3 4 1 t n 4 1 t a 4 1 t 5 4 2 t 1 5 1 4 1 6 1 5 5 6 1
   t 1 5 2 6 1 t 2 6 2 5 7 t 2 6 5 t 3 4 1 t 2 4 2 5 2 t a 8 1 t 2 4 1 6 c t 2 5 2 6 9 4 1 t 3
   4 1 t 15 4 2 5 1 4 3 6 4 5 1 t 3 6 1 t 3 6 1 5 1 4 1 l 4 t 3 4 1 6 7 a 3 4 2 5 2 t a 8 9 a 1
   l 6 4 1 t 1 5 2 6 1 t i 4 3 t o 4 1 t 9 4 1 t 1 4 2 t 7 4 3 t 1 5 4 t 3 6 3 5 1 t 1 5 1 t 8
   6 6 t a 8 2 t 2 6 1 h c t 1c 4 1 5 2 4 7 5 4 t 1 j 6 4 1 3 8 5 1 h a 8 2 h 11 t 2 4 1 t 1 4
   1 t 5 4 1 t o 4 1 t 1 4 1 t a 4 1 5 2 4 9 5 1 4 2 t 5 4 1 t 1 3 1 t 7 5 1 t a 8 2 t 4 4 w t
   1 4 3 l f h 1 l 1 h 3 l 2 5 6 l a 8 a a 1 l 1 5 1 l 1 5 1 l 1 5 1 d 1 e 1 d 1 e 2 6 8 4 1 t
   10 4 4 t e 5 1 6 5 5 1 h 2 5 5 4 b 5 1 t 10 5 1 t 8 l 1 5 6 l 1 t 2 l 5 h 4 l 2 h 11 t 17 4
   2 6 4 5 1 6 6 5 1 6 2 5 2 6 2 5 1 4 a 8 6 h 6 4 2 6 2 5 4 4 3 5 1 4 3 6 2 4 7 6 3 4 4 5 d 4
   1 5 2 6 2 5 6 6 1 5 1 4 1 6 a 8 3 6 1 5 2 l 12 0 1 t 1 0 5 t 1 0 2 t 17 1 1 h 1 3 3 1 95 4 1
   t 4 4 2 t 7 4 1 t 1 4 1 t 4 4 2 t 15 4 1 t 4 4 2 t x 4 1 t 4 4 2 t 7 4 1 t 1 4 1 t 4 4 2 t f
   4 1 t 1l 4 1 t 4 4 2 t 1v 4 2 t 3 5 9 h k a 3 t g 4 a l 6 t 2e 0 2 t 6 1 2 t 1 c h8 4 1 l 1
   h h 4 1 m q 4 1 d 1 e 3 t 23 4 3 h 3 9 8 4 7 t i 4 3 5 1 6 9 t j 4 2 5 1 6 2 h 9 t i 4 2 5 c
   t d 4 1 t 3 4 1 t 2 5 c t 1g 4 2 5 1 6 7 5 8 6 1 5 2 6 b 5 3 h 1 3 3 h 1 j 1 4 1 5 2 t a 8 6
   t a a 6 t 6 h 1 c 4 h 3 5 1 q 1 5 a 8 6 t z 4 1 3 1h 4 7 t 5 4 2 5 y 4 1 5 1 4 5 t 1y 4 a t
   v 4 1 t 3 5 4 6 2 5 3 6 4 t 2 6 1 5 6 6 3 5 4 t 1 l 3 t 2 h a 8 u 4 2 t 5 4 b t 18 4 4 t q 4
   6 t a 8 1 a 3 t y l n 4 2 5 2 6 1 5 2 t 2 h 1h 4 1 6 1 5 1 6 7 5 1 t 1 5 1 6 1 5 2 6 8 5 6 6
   a 5 2 t 1 5 a 8 6 t a 8 6 t 7 h 1 3 6 h 2 t e 5 1 7 v 5 2 t c 5 k t 4 5 1 6 1b 4 1 5 1 6 5 5
   1 6 1 5 5 6 1 5 2 6 8 4 1 t 2 h a 8 7 h a l 9 5 9 l 3 h 2 5 1 6 u 4 1 6 4 5 2 6 2 5 1 6 3 5
   2 4 a 8 18 4 1 5 1 6 2 5 3 6 1 5 1 6 3 5 2 6 8 t 4 h 10 4 8 6 8 5 2 6 2 5 3 t 5 h a 8 3 t 3
   4 a 8 u 4 6 3 2 h 9 1 1 0 1 1 5 t 17 0 2 t 3 0 8 h 8 t 3 5 1 h d 5 1 6 7 5 4 4 1 5 6 4 1 5 2
   4 1 6 2 5 1 4 5 t 18 1 1r 3 d 1 1 3 y 1 11 3 1s 5 1 0 1 1 1 0 1 1 1 0 1 1 1 0 1 1 1 0 1 1 1
   0 1 1 1 0 1 1 1 0 1 1 1 0 1 1 1 0 1 1 1 0 1 1 1 0 1 1 1 0 1 1 1 0 1 1 1 0 1 1 1 0 1 1 1 0 1
   1 1 0 1 1 1 0 1 1 1 0 1 1 1 0 1 1 1 0 1 1 1 0 1 1 1 0 1 1 1 0 1 1 1 0 1 1 1 0 1 1 1 0 1 1 1
   0 1 1 1 0 1 1 1 0 1 1 1 0 1 1 1 0 1 1 1 0 1 1 1 0 1 1 1 0 1 1 1 0 1 1 1 0 1 1 1 0 1 1 1 0 1
   1 1 0 1 1 1 0 1 1 1 0 1 1 1 0 1 1 1 0 1 1 1 0 1 1 1 0 1 1 1 0 1 1 1 0 1 1 1 0 1 1 1 0 1 1 1
   0 1 1 1 0 1 1 1 0 1 1 1 0 1 1 1 0 1 1 1 0 1 1 1 0 1 1 1 0 1 1 1 0 1 1 1 0 1 1 1 0 1 1 1 0 1
   1 1 0 1 1 1 0 1 1 1 0 1 1 1 0 1 1 1 0 1 1 1 0 1 1 1 0 1 1 1 0 1 1 1 0 1 1 1 0 1 1 1 0 1 1 1
   0 9 1 1 0 1 1 1 0 1 1 1 0 1 1 1 0 1 1 1 0 1 1 1 0 1 1 1 0 1 1 1 0 1 1 1 0 1 1 1 0 1 1 1 0 1
   1 1 0 1 1 1 0 1 1 1 0 1 1 1 0 1 1 1 0 1 1 1 0 1 1 1 0 1 1 1 0 1 1 1 0 1 1 1 0 1 1 1 0 1 1 1
   0 1 1 1 0 1 1 1 0 1 1 1 0 1 1 1 0 1 1 1 0 1 1 1 0 1 1 1 0 1 1 1 0 1 1 1 0 1 1 1 0 1 1 1 0 1
   1 1 0 1 1 1 0 1 1 1 0 1 1 1 0 1 1 1 0 1 1 1 0 1 1 1 0 1 1 1 0 1 1 1 0 1 1 1 0 1 1 1 0 1 1 1
   0 1 1 1 0 1 1 1 0 1 1 1 0 9 1 8 0 6 1 2 t 6 0 2 t 8 1 8 0 8 1 8 0 6 1 2 t 6 0 2 t 8 1 1 t 1
   0 1 t 1 0 1 t 1 0 1 t 1 0 8 1 8 0 e 1 2 t 8 1 8 2 8 1 8 2 8 1 8 2 5 1 1 t 2 1 4 0 1 2 1 k 1
   1 3 k 3 1 1 t 2 1 4 0 1 2 3 k 4 1 2 t 2 1 4 0 1 t 3 k 8 1 5 0 3 k 2 t 3 1 1 t 2 1 4 0 1 2 2
   k 1 t b m 5 q 6 c 2 h 1 f 1 g 1 d 2 f 1 g 1 d 1 f 8 h 1 n 1 o 5 q 1 m 9 h 1 f 1 g 4 h 2 b 3
   h 1 i 1 d 1 e b h 1 i 1 h 1 b a h 1 m 5 q 1 t a q 1 a 1 3 2 t 6 a 3 i 1 d 1 e 1 3 a a 3 i 1
   d 1 e 1 t d 3 3 t y j e t d 5 4 7 1 5 3 7 c 5 f t 2 l 1 0 4 l 1 0 2 l 1 1 3 0 2 1 3 0 1 1 1
   l 1 0 2 l 1 i 5 0 6 l 1 0 1 l 1 0 1 l 1 0 1 l 4 0 1 l 1 1 4 0 1 1 4 4 1 1 2 l 2 1 2 0 5 i 1
   0 4 1 1 l 1 i 2 l 1 1 1 l g a z 9 1 0 1 1 4 9 1 a 2 l 4 t 5 i 5 l 2 i 4 l 1 i 2 l 1 i 2 l 1
   i 7 l 1 i v l 2 i 2 l 1 i 1 l 1 i v l 7g i 8 l 1 d 1 e 1 d 1 e k l 2 i 7 l 1 d 1 e 29 l 1 i
   u l p i 14 l 6 i 20 l m t b l l t 1o a 26 l m a 53 l 1 i 9 l 1 i 1i l 8 i 33 l 1 i 6w l 1 d
   1 e 1 d 1 e 1 d 1 e 1 d 1 e 1 d 1 e 1 d 1 e 1 d 1 e u a 18 l 5 i 1 d 1 e v i 1 d 1 e 1 d 1 e
   1 d 1 e 1 d 1 e 1 d 1 e g i 74 l 3n i 1 d 1 e 1 d 1 e 1 d 1 e 1 d 1 e 1 d 1 e 1 d 1 e 1 d 1
   e 1 d 1 e 1 d 1 e 1 d 1 e 1 d 1 e 1r i 1 d 1 e 1 d 1 e w i 1 d 1 e 76 i 1c l l i 2 l 6 i 13
   l 2 t 3u l 1c 0 1c 1 1 0 1 1 3 0 2 1 1 0 1 1 1 0 1 1 1 0 1 1 4 0 1 1 1 0 2 1 1 0 6 1 2 3 3 0
   1 1 1 0 1 1 1 0 1 1 1 0 1 1 1 0 1 1 1 0 1 1 1 0 1 1 1 0 1 1 1 0 1 1 1 0 1 1 1 0 1 1 1 0 1 1
   1 0 1 1 1 0 1 1 1 0 1 1 1 0 1 1 1 0 1 1 1 0 1 1 1 0 1 1 1 0 1 1 1 0 1 1 1 0 1 1 1 0 1 1 1 0
   1 1 1 0 1 1 1 0 1 1 1 0 1 1 1 0 1 1 1 0 1 1 1 0 1 1 1 0 1 1 1 0 1 1 1 0 1 1 1 0 1 1 1 0 1 1
   1 0 1 1 1 0 1 1 1 0 1 1 1 0 1 1 1 0 1 1 1 0 1 1 1 0 1 1 1 0 1 1 1 0 1 1 1 0 1 1 1 0 1 1 1 0
   1 1 1 0 1 1 1 0 1 1 1 0 2 1 6 l 1 0 1 1 1 0 1 1 3 5 1 0 1 1 5 t 4 h 1 a 2 h 12 1 1 t 1 1 5 t
   1 1 2 t 1k 4 7 t 1 3 1 h e t 1 5 n 4 9 t 7 4 1 t 7 4 1 t 7 4 1 t 7 4 1 t 7 4 1 t 7 4 1 t 7 4
   1 t 7 4 1 t w 5 2 h 1 f 1 g 1 f 1 g 3 h 1 f 1 g 1 h 1 f 1 g 9 h 1 c 2 h 1 c 1 h 1 f 1 g 2 h
   1 f 1 g 1 d 1 e 1 d 1 e 1 d 1 e 1 d 1 e 5 h 1 3 a h 2 c 4 h 1 c 1 h 1 d d h 2 l 3 h 1 d 1 e
   1 d 1 e 1 d 1 e 1 d 1 e 1 c y t q l 1 t 2h l c t 5y l q t g l 1 m 3 h 1 l 1 3 1 4 1 9 1 d 1
   e 1 d 1 e 1 d 1 e 1 d 1 e 1 d 1 e 2 l 1 d 1 e 1 d 1 e 1 d 1 e 1 d 1 e 1 c 1 d 2 e 1 l 9 9 4
   5 2 6 1 c 5 3 2 l 3 9 1 3 1 4 1 h 2 l 1 t 2e 4 2 t 2 5 2 k 2 3 1 4 1 c 2i 4 1 h 3 3 1 4 5 t
   17 4 1 t 2m 4 1 t 2 l 4 a a l w 4 12 l 9 t 1 l g 4 v l 1 t a a u l 8 a 1 l f a w l a a 13 l
   f a 8w l 534 4 1s l g7p 4 1 3 vr 4 3 t 1j l 9 t 14 4 6 3 2 h 7g 4 1 3 3 h g 4 a 8 2 4 k t 1
   0 1 1 1 0 1 1 1 0 1 1 1 0 1 1 1 0 1 1 1 0 1 1 1 0 1 1 1 0 1 1 1 0 1 1 1 0 1 1 1 0 1 1 1 0 1
   1 1 0 1 1 1 0 1 1 1 0 1 1 1 0 1 1 1 0 1 1 1 0 1 1 1 0 1 1 1 0 1 1 1 0 1 1 1 0 1 1 1 0 1 1 1
   4 1 5 3 7 1 h a 5 1 h 1 3 1 0 1 1 1 0 1 1 1 0 1 1 1 0 1 1 1 0 1 1 1 0 1 1 1 0 1 1 1 0 1 1 1
   0 1 1 1 0 1 1 1 0 1 1 1 0 1 1 1 0 1 1 1 0 1 1 2 3 2 5 1y 4 a 9 2 5 6 h 8 t n k 9 3 2 k 1 0 1
   1 1 0 1 1 1 0 1 1 1 0 1 1 1 0 1 1 1 0 1 1 1 0 3 1 1 0 1 1 1 0 1 1 1 0 1 1 1 0 1 1 1 0 1 1 1
   0 1 1 1 0 1 1 1 0 1 1 1 0 1 1 1 0 1 1 1 0 1 1 1 0 1 1 1 0 1 1 1 0 1 1 1 0 1 1 1 0 1 1 1 0 1
   1 1 0 1 1 1 0 1 1 1 0 1 1 1 0 1 1 1 0 1 1 1 0 1 1 1 0 1 1 1 0 1 1 1 0 1 1 1 0 1 1 1 0 1 1 1
   0 1 1 1 0 1 1 1 0 1 1 1 3 8 1 1 0 1 1 1 0 1 1 2 0 1 1 1 0 1 1 1 0 1 1 1 0 1 1 1 0 1 1 1 3 2
   k 1 0 1 1 1 0 1 1 1 4 1 0 1 1 1 0 3 1 1 0 1 1 1 0 1 1 1 0 1 1 1 0 1 1 1 0 1 1 1 0 1 1 1 0 1
   1 1 0 1 1 1 0 1 1 1 0 1 1 5 0 1 1 5 0 1 1 1 0 1 1 1 0 1 1 1 0 1 1 1 0 1 1 1 0 1 1 1 0 1 1 1
   0 1 1 4 0 1 1 1 0 1 1 2 0 1 1 1 0 1 1 1 0 1 1 1 0 1 1 1 0 1 1 1 0 1 1 1 0 1 1 1 0 1 1 1 0 k
   t 4 3 1 0 1 1 1 4 2 3 1 1 7 4 1 5 3 4 1 5 4 4 1 5 n 4 2 6 2 5 1 6 4 l 1 5 3 t 6 a 2 l 1 j 1
   l 6 t 1g 4 4 h 8 t 2 6 1e 4 g 6 2 5 8 t 2 h a 8 6 t i 5 6 4 3 h 1 4 1 h 2 4 1 5 a 8 s 4 8 5
   2 h n 4 b 5 2 6 b t 1 h t 4 3 t 3 5 1 6 1b 4 1 5 2 6 4 5 2 6 2 5 3 6 d h 1 t 1 3 a 8 4 t 2 h
   5 4 1 5 1 3 9 4 a 8 5 4 1 t 15 4 6 5 2 6 2 5 2 6 2 5 9 t 3 4 1 5 8 4 1 5 1 6 2 t a 8 2 t 4 h
   g 4 1 3 6 4 3 l 1 4 1 6 1 5 1 6 1e 4 1 5 1 4 3 5 2 4 2 5 5 4 2 5 1 4 1 5 1 4 o t 2 4 1 3 2 h
   b 4 1 6 2 5 2 6 2 h 1 4 2 3 1 6 1 5 a t 6 4 2 t 6 4 2 t 6 4 9 t 7 4 1 t 7 4 1 t 17 1 1 k 4 3
   9 1 1 3 2 k 4 t 28 1 z 4 2 6 1 5 2 6 1 5 2 6 1 h 1 6 1 5 2 t a 8 6 t 8mc 4 c t n 4 4 t 1d 4
   4 t 1kw r 4xs s a6 4 2 t 2y 4 12 t 7 1 c t 5 1 5 t 1 4 1 5 a 4 1 i d 4 1 t 5 4 1 t 1 4 1 t 2
   4 1 t 2 4 1 t 30 4 h k g l a3 4 1 e 1 d g l 1s 4 2 l 1i 4 8 l w t c 4 1 j 3 l g 5 7 h 1 d 1
   e 1 h 6 t g 5 1 h 2 c 2 b 1 d 1 e 1 d 1 e 1 d 1 e 1 d 1 e 1 d 1 e 1 d 1 e 1 d 1 e 1 d 1 e 2
   h 1 d 1 e 4 h 3 b 3 h 1 t 4 h 1 c 1 d 1 e 1 d 1 e 1 d 1 e 3 h 1 i 1 c 3 i 1 t 1 h 1 j 2 h 4
   t 5 4 1 t 3r 4 2 t 1 q 1 t 3 h 1 j 3 h 1 d 1 e 1 h 1 i 1 h 1 c 2 h a 8 2 h 3 i 2 h q 0 1 d 1
   h 1 e 1 k 1 b 1 k q 1 1 d 1 i 1 e 1 i 1 d 1 e 1 h 1 d 1 e 2 h a 4 1 3 19 4 2 3 v 4 3 t 6 4 2
   t 6 4 2 t 6 4 2 t 3 4 3 t 2 j 1 i 1 k 1 l 2 j 1 t 1 l 4 i 2 l a t 3 q 2 l 2 t c 4 1 t q 4 1
   t j 4 1 t 2 4 1 t f 4 2 t e 4 y t 3f 4 5 t 3 h 4 t 19 a 3 t 9 l 1h 9 4 a h l 2 a 3 l 1 t d l
   3 t 1 l 1b t 19 l 1 5 3m t t 4 3 t 1d 4 f t 1 5 r a 4 t w 4 4 a 9 t k 4 1 9 8 4 1 9 5 t 12 4
   5 5 5 t u 4 1 t 1 h 10 4 4 t 8 4 1 h 5 9 16 t 14 0 14 1 26 4 2 t a 8 6 t 10 0 4 t 10 1 4 t
   14 4 8 t 1g 4 b t 1 h b 0 1 t f 0 1 t 7 0 1 t 2 0 1 t b 1 1 t f 1 1 t 7 1 1 t 2 1 3 t 1g 4 c
   t 8n 4 9 t m 4 a t 8 4 o t 6 3 1 t 16 3 1 t 9 3 1x t 6 4 2 t 1 4 1 t 18 4 1 t 2 4 3 t 1 4 2
   t n 4 1 t 1 h 8 a n 4 2 l 7 a v 4 8 t 9 a 1c t j 4 1 t 2 4 5 t 5 a m 4 6 a 3 t 1 h q 4 5 t 1
   h q 4 12 t 1k 4 4 t 2 a 2 4 g a 2 t 1a a 1 4 3 5 1 t 2 5 5 t 4 5 4 4 1 t 3 4 1 t t 4 2 t 3 5
   4 t 1 5 9 a 7 t 9 h 7 t t 4 2 a 1 h t 4 3 a w t 8 4 1 l s 4 2 5 4 t 5 a 7 h 9 t 1i 4 3 t 7 h
   m 4 2 t 8 a j 4 5 t 8 a i 4 7 t 4 h c t 7 a 28 t 21 4 1j t 1f 0 d t 1f 1 7 t 6 a 10 4 4 5 8
   t a 8 6 t a 8 4 4 1 3 1 4 m 0 3 t 5 5 1 c 1 3 m 1 8 t 2 i 5s t v a 1 t 16 4 1 t 2 5 1 c 2 t
   2 4 g t 3 4 1 3 2 4 8 t 1 h 8 l x t 6 5 t 4 a a 1 4 8 t m 4 b 5 4 a 5 h m t i 4 4 5 4 h 12 t
   l 4 7 a k t n 4 9 t 1 6 1 5 1 6 1h 4 f 5 7 h 4 t k a a 8 1 5 2 4 2 5 1 4 9 t 3 5 1 6 19 4 3
   6 4 5 2 6 2 5 2 h 1 q 4 h 1 5 a t 1 q 2 t p 4 7 t a 8 6 t 3 5 10 4 5 5 1 6 8 5 1 t a 8 4 h 1
   4 2 6 1 4 8 t z 4 1 5 2 h 1 4 9 t 2 5 1 6 1c 4 3 6 9 5 2 6 4 4 4 h 4 5 1 h 1 6 1 5 a 8 1 4 1
   h 1 4 3 h 1 t k a b t i 4 1 t p 4 3 6 3 5 2 6 1 5 1 6 2 5 6 h 1 5 2 4 1 5 1q t 7 4 1 t 1 4 1
   t 4 4 1 t f 4 1 t a 4 1 h 6 t 1b 4 1 5 3 6 8 5 5 t a 8 6 t 2 5 2 6 1 t 8 4 2 t 2 4 2 t m 4 1
   t 7 4 1 t 2 4 1 t 5 4 1 t 2 5 1 4 2 6 1 5 4 6 2 t 2 6 2 t 3 6 2 t 1 4 6 t 1 6 5 t 5 4 2 6 2
   t 7 5 3 t 5 5 b t a 4 1 t 1 4 2 t 1 4 1 t 12 4 1 t 1 4 3 6 6 5 1 t 1 6 2 t 1 6 1 t 4 6 1 t 2
   6 1 5 1 6 1 5 1 4 1 5 1 4 2 h 1 t 2 h 8 t 2 5 t t 1h 4 3 6 8 5 2 6 3 5 1 6 1 5 4 4 5 h a 8 2
   h 1 t 1 h 1 5 3 4 u t 1c 4 3 6 6 5 1 6 1 5 4 6 2 5 1 6 2 5 2 4 1 h 1 4 8 t a 8 4m t 1b 4 3 6
   4 5 2 t 4 6 2 5 1 6 2 5 n h 4 4 2 5 y t 1c 4 3 6 8 5 2 6 1 5 1 6 2 5 3 h 1 4 b t a 8 6 t d h
   j t 17 4 1 5 1 6 1 5 2 6 6 5 1 6 1 5 1 4 1 h 6 t a 8 6 t k 8 s t r 4 2 t 1 5 1 6 1 5 2 6 4 5
   1 6 5 5 4 t a 8 2 a 3 h 1 l 7 4 55 t 18 4 3 6 9 5 1 6 2 5 1 h 2s t w 0 w 1 a 8 9 a c t 8 4 2
   t 1 4 2 t 8 4 1 t 2 4 1 t o 4 6 6 1 t 2 6 2 t 2 5 1 6 1 5 1 4 1 6 1 4 1 6 1 5 3 h 9 t a 8 1y
   t 8 4 2 t 13 4 3 6 4 5 2 t 2 5 4 6 1 5 1 4 1 h 1 4 1 6 r t 1 4 a 5 14 4 6 5 1 6 1 4 4 5 8 h
   1 5 8 t 1 4 6 5 2 6 3 5 1a 4 d 5 1 6 2 5 3 h 1 4 5 h d t 21 4 7 t a h 2e t 1 5 1 6 3 5 1 6 1
   5 1 6 2g t x 4 1 h e t a 8 6 t 9 4 1 t 11 4 1 6 7 5 1 t 6 5 1 6 1 5 1 4 5 h a t a 8 j a 3 t
   2 h u 4 2 t m 5 1 t 1 6 7 5 1 6 2 5 1 6 2 5 21 t 7 4 1 t 2 4 1 t 12 4 6 5 3 t 1 5 1 t 2 5 1
   t 7 5 1 4 1 5 8 t a 8 6 t 6 4 1 t 2 4 1 t w 4 5 6 1 t 2 5 1 t 2 6 1 5 1 6 1 5 1 4 7 t a 8 6
   t 15 4 1 3 2 4 4 t a 8 6u t j 4 2 5 2 6 2 h 7 t 2 5 1 4 1 6 d 4 1 t y 4 2 6 5 5 3 t 2 6 1 5
   1 6 1 5 d h a 8 1 5 2d t 1 4 f t l a 8 l 4 j h l d t 1 h pm 4 2u t 33 9 1 t 5 h b t 5g 4 218
   t 2p 4 2 h d t ts 4 g q 1 5 6 4 f 5 a t 32z 4 5 t g7 4 5a1 t u 4 c 5 3 6 3 5 a 8 1c6 t ft 4
   7 t v 4 1 t a 8 4 t 2 h 27 4 1 t a 8 6 t u 4 2 t 5 5 1 h a t 1c 4 7 5 5 h 4 l 4 3 1 h 1 l a
   t a 8 1 t 7 a 1 t l 4 5 t j 4 c0 t 3 3 14 4 2 3 3 h a 8 5i t w 0 w 1 n a 4 h 5 t p 0 2 t p 1
   18 t 23 4 4 t 1 5 1 4 1j 6 7 t 4 5 d 3 1s t 2 3 1 h 1 3 1 5 b t 2 6 2 3 3 9 9 t 5p2 4 15 t w
   4 2p t 37 4 6pp t 4 3 1 t 7 3 1 t 2 3 1 t 83 4 f t 1 4 t t 3 4 2 t 1 4 e t 4 4 8 t b0 4 1s4
   t 2z 4 5 t d 4 3 t 9 4 7 t a 4 2 t 1 l 2 5 1 h 4 q 318 t 6o l a 8 3 l 3 t c4 l 6 t n l f t g
   l 1 i f t 1a 5 2 t n 5 9 t 38 l 1o t 6u l a t 13 l 2 t 1o l 2 6 3 5 3 l 6 6 8 q 8 5 2 l 7 5
   u l 4 5 1p l l t 1u l 3 5 1 l 3e t k a c t k a c t 2f l 9 t p a 3r t q 0 q 1 q 0 7 1 1 t i 1
   q 0 q 1 1 0 1 t 2 0 2 t 1 0 2 t 2 0 2 t 4 0 1 t 8 0 4 1 1 t 1 1 1 t 7 1 1 t b 1 q 0 q 1 2 0
   1 t 4 0 2 t 8 0 1 t 7 0 1 t q 1 2 0 1 t 4 0 1 t 5 0 1 t 1 0 3 t 7 0 1 t q 1 q 0 q 1 q 0 q 1
   q 0 q 1 q 0 q 1 q 0 q 1 q 0 s 1 2 t p 0 1 i p 1 1 i 6 1 p 0 1 i p 1 1 i 6 1 p 0 1 i p 1 1 i
   6 1 p 0 1 i p 1 1 i 6 1 p 0 1 i p 1 1 i 6 1 1 0 1 1 2 t 1e 8 e8 l 1j 5 4 l 1e 5 8 l 1 5 e l
   1 5 2 l 5 h f t 5 5 1 t f 5 uo t a 1 1 4 k 1 6 t 6 1 5x t 7 5 1 t h 5 2 t 7 5 1 t 2 5 1 t 5
   5 5 t 1q 3 x t 1 5 34 t 19 4 3 t 7 5 7 3 2 t a 8 4 t 1 4 1 l 8w t u 4 1 5 h t 18 4 4 5 a 8 5
   t 1 j cw t r 4 1 3 4 5 a 8 5y t u 4 2 5 1 4 a 8 4 t 1 h 5c t v 4 1 t 3 4 1 5 2 4 1 5 7 4 2 5
   5 4 1 5 8 t 1 4 1 3 68 t 7 4 1 t 4 4 1 t 2 4 1 t f 4 1 t 5h 4 2 t 9 a 7 5 15 t y 0 y 1 7 5 1
   3 4 t a 8 4 t 2 h lt t 1n a 1 l 3 a 1 j 4 a 24 t 19 a 1 l f a 5e t 4 4 1 t r 4 1 t 2 4 1 t 1
   4 2 t 1 4 1 t a 4 1 t 4 4 1 t 1 4 1 t 1 4 6 t 1 4 4 t 1 4 1 t 1 4 1 t 1 4 1 t 3 4 1 t 2 4 1
   t 1 4 2 t 1 4 1 t 1 4 1 t 1 4 1 t 1 4 1 t 1 4 1 t 2 4 1 t 1 4 2 t 4 4 1 t 7 4 1 t 4 4 1 t 4
   4 1 t 1 4 1 t a 4 1 t h 4 5 t 3 4 1 t 5 4 1 t h 4 1g t 2 i 7i t 18 l 4 t 2s l c t f l 2 t f
   l 1 t f l 1 t 11 l a t d a 4h l 1k t t l d t 18 l 4 t 9 l 7 t 2 l e t 6 l 4a t 6z l 5 k k9 l
   3 t h l 3 t d l 3 t 62 l 6 t c l 4 t 1 l f t c l 4 t 1k l 8 t a l 6 t 14 l 8 t u l 2 t c l 4
   t 2 l e t 9 i 13 t 9k l 8 t e l 2 t d l 3 t b l 3 t 1l l 1 t 1 l 4 t g l 2 t c l 4 t a l 7 t
   43 l 1 t 2k l a 8 1 l sl t wyo 4 w t 3dq 4 2 t 4ge 4 2 t 5rl 4 f t ha 4 1wi t f2 4 15u t 3t7
   4 5 t 6ju 4 f5vr t 1 q u t 2o q 3k t 6o 5 1e6o t 1eke s 2 t 1eke s 2 t"

/-- One script to a line: its name, its short name if it is in use, and its ranges. -/
def scriptRanges : String :=
"ADLAM - 2olc 23 5 9 5 1
AHOM - 1j40 q 3 e 5 m
ANATOLIANHIEROGLYPHS - 1s00 g6
ARABIC ARAB 16o 4 2 5 2 d 2 2 2 v 2 9 c p 2 2z 2 x 29 1b 6p x 6 22 2 s 1bv5 dp 3 3z x f 35 4 2 3q 31g u 1w 5 9 8 y 5 181t 3 2 q 2 1 2 0 3 0 2 9 2 3 2 0 2 0 7 0 5 0 2 0 2 0 2 2 2 1 2 0 3 0 2 0 2 0 2 0 2 0 2 1 2 0 3 3 2 6 2 3 2 3 2 0 2 9 2 g 6 2 2 4 2 g 1h 1
ARMENIAN ARMN 10x 11 3 1d 3 2 1chw 4
AVESTAN - 1gqo 1h 4 6
BALINESE - 5c0 24 2 1d
BAMUM - www 2f 124p fs
BASSAVAH - 1zo0 t 3 5
BATAK - 5hc 1f 9 3
BENGALI BENG 1vk 3 2 7 3 1 3 l 2 6 2 0 4 3 3 8 3 1 3 3 9 0 5 1 2 4 3 o
BHAIKSUKI - 1k3k 8 2 18 2 d b s
BOPOMOFO BOPO kq 1 93u 16 35 v
BRAHMI - 1hq8 25 5 z a 0
BRAILLE BRAI 7wg 73
BUGINESE - 54w r 3 1
BUHID - 4lc j
CANADIANABORIGINAL CANS 3y8 hr fl 1x 1ewr f
CARIAN - 1f34 1c
CAUCASIANALBANIAN - 1flc 1f c 0
CHAKMA - 1hxc 1g 2 h
CHAM - xkw 1i a d 3 9 3 3
CHEROKEE CHER 3vk 2d 3 5 twz 27
CHORASMIAN - 1ho0 r
COMMON ZYYY 0 1s r 5 r 1a 2 e 2 4 o 0 w 0 ci 12 6 4 3 j 39 0 a 0 7 0 2 0 hq 0 7 0 f 0 4 0 x 0 4d 0 ed 0 3m 1 yi 0 ba 3 83 0 168 2 20 1 5o 1 2 0 y6 0 e 0 8 3 2 5 2 2 3 0 li b 3 2e 2 a 4 a 2 e i x 1r 11 2 2 3 5 2 q 2 g 16 2 5 ih n a m pr 75 hf 3 3t e9 2l b7 k 2 0 2 o g 7 5 3 2k 1 4 0 2j 1 44 f x 11 a 0 1d 1r w 28 1c 0 2h 4n 535 1r hkx x 2v 2 4m 9 6t 0 4h 0 b0 0 f 1 g5v 1 5t 9 n y 2 i 2 3 44 0 2 v r 5 r a b 0 1a 1 1t 6 2 6 b 4 77 2 5 18 4 8 29 c 1g 18 6d q 10o5 3 319 70 4 c3 7 m g g 2o 37 1p 6t b 12 3 1p 4 g 9 1 8 t 5 1o 5y j d j d 2e a o 3s 2c 2 1y 2 1 3 0 3 1 3 3 2 b 2 0 2 6 2 1s 2 3 3 7 2 6 2 r 2 3 2 4 2 0 4 6 2 9f 3 83 3 1d 41e 1v 25 1o jn 17 5 2r d e 3 e 2 e 2 10 b 4t 1l p 2 1 e 17 5 8 8 1 f 5 4b rc 4 g 4 c 4 61 7 b 5 0 g b 5 1j 9 9 7 13 9 t 3 b 5 1 f 8 14 9j 9 d 3 c 4 a 4 1k 2 0 5 f 3 b 5 9 8 42 2 2u gvlz 0 v 2n
COPTIC COPT rm d 80h 37 6 6
CUNEIFORM - 1kw0 pl 2v 32 2 4 c 5f
CYPRIOT - 1g5c 5 3 0 2 17 2 1 4 0 3 0
CYPROMINOAN - 1nyo 2q
CYRILLIC CYRL sg 3o 3 4o 4lt a 4h 0 25 0 38o v nr5 2n han 1 18n5 1p y 0
DESERET - 1fcw 27
DEVANAGARI DEVA 1s0 28 5 e 3 p vhd v mip 9
DIVESAKURU - 1ji8 6 3 0 3 7 2 1 2 t 2 1 3 b a 9
DOGRA - 1jb4 1n
DUPLOYAN - 2fpc 2y 6 c 4 8 8 9 3 3
EGYPTIANHIEROGLYPHS - 1o1s ut b 32y
ELBASAN - 1fk0 13
ELYMAIC - 1hpc m
ETHIOPIC ETHI 3k0 20 2 3 3 6 2 0 2 3 3 14 2 3 3 w 2 3 3 6 2 0 2 3 3 e 2 1k 2 3 3 1u 3 v 4 p 547 m a 6 2 6 2 6 2 6 2 6 2 6 2 6 2 6 opv 5 3 5 3 5 a 6 2 6 1qk2 6 2 3 2 1 2 e
GEORGIAN GEOR 3a8 11 2 0 6 0 3 16 2 3 2a9 16 3 2 37l 11 2 0 6 0
GLAGOLITIC - 8ow 2n 2e1t 6 2 g 3 6 2 1 2 4
GOTHIC GOTH 1f74 q
GRANTHA - 1ibk 3 2 7 3 1 3 l 2 6 2 1 2 4 3 8 3 1 3 2 3 0 7 0 6 6 3 6 4 4
GREEK GREK og 3 2 2 3 3 2 0 5 0 2 0 2 2 2 0 2 j 2 1q f f 4yv 4 1f 4 5 4 2d 0 8x l 3 5 3 11 3 5 3 7 2 0 2 0 2 0 2 u 3 1g 2 e 2 d 3 5 2 i 3 2 2 8 88 0 rb3 0 gyj 26 i 0 155s 1x
GUJARATI GUJR 22p 2 2 8 2 2 2 l 2 6 2 1 2 4 3 9 2 2 2 2 3 0 g 3 3 b 8 6
GUNJALAGONDI - 1kdc 5 2 1 2 10 2 1 2 5 8 9
GURMUKHI GURU 1z5 2 2 5 5 1 3 l 2 6 2 1 2 1 2 1 3 0 2 4 5 1 3 2 4 0 8 3 2 0 8 g
HAN HANI 96o p 2 2g d 5x 1c 0 2 0 q 8 f 3 qt 533 1t g73 hkx a5 3 2x n49 1 d 6 sga wyn x 3dp 3 4gd 3 5rk g h9 1wj f1 15v 3t6 6 6jt
HANGUL HANG 3cw 73 5yn 1 76 2l 36 u 1u u nhe s hw 8mb d m 5 1c 7tx u 4 5 3 5 3 5 3 2
HANIFIROHINGYA - 1h4w 13 9 9
HANUNOO - 4kg k
HATRAN - 1gbk i 2 1 6 4
HEBREW HEBR 13l 1i 9 q 5 5 1cfd p 2 4 2 0 2 1 2 1 2 9
HIRAGANA HIRA 9j5 2d 7 2 23qa 7y j 0 u 2 cry 0
IMPERIALARAMAIC - 1g74 l 2 8
INHERITED ZINH lc 33 7q 1 cl a r 0 kh 3 3fg 19 3 b dh 2 2 c 2 6 5 0 7 0 4 1 5j 1r el 1 5f w 30a 3 30 1 14km f h d r4 0 6b 0 38b 0 1139 19 3 m f5 2 i 7 3 6 v 3 h45v 6n
INSCRIPTIONALPAHLAVI - 1gtc i 6 7
INSCRIPTIONALPARTHIAN - 1gsg l 3 7
JAVANESE - xhc 25 3 9 5 1
KAITHI - 1hts 1u b 0
KANNADA KNDA 2gw c 2 2 2 m 2 9 2 4 3 8 2 2 2 3 8 1 6 2 2 3 3 9 2 2
KATAKANA KANA 9lt 2h 3 2 6p f 5t 1a 2 2f 14b3 9 2 18 ytv 3 2 6 2 1 2 0 80 2 1f 0 f 3
KAYAHLI - xds 19 2 0
KHAROSHTHI - 1gjk 3 2 1 6 7 2 2 2 s 3 2 5 9 8 8
KHITANSMALLSCRIPT - 20o4 0 5cs d1 16 0
KHMER KHMR 4n4 2l 3 9 7 9 dj v
KHOJKI - 1i4g h 2 1a
KHUDAWADI - 1i9c 1m 6 9
LAO LAOO 2v5 1 2 0 2 4 2 n 2 0 2 m 3 4 2 0 2 6 2 9 3 3
LATIN LATN 1t p 7 p 1c 0 g 0 6 m 2 u 2 cg 14 4 55o 11 7 1c 6 3 6 c 2 1x 1u 73 aa 0 e 0 h c 3y 1 7 0 s 0 i 14 254 v o83 2t 4 29 l e mp 16 2 8 2 3 fpz 6 t7 p 7 p 1ly 5 2 15 2 8 16iu u 7 5
LEPCHA - 5j4 1j 4 e 4 2
LIMBU - 4xs u 2 b 5 b 5 0 4 b
LINEARA - 1fr4 8m a l b 7
LINEARB - 1ekg b 2 p 2 i 2 1 2 e 3 d z 3e
LISU - wk0 1b o8h 0
LYCIAN - 1f28 s
LYDIAN - 1gdc p 6 0
MAHAJANI - 1hzk 12
MAKASAR - 1ko0 o
MALAYALAM MLYM 2kg c 2 2 2 1e 2 2 2 5 5 f 3 p
MANDAIC - 1mo r 3 0
MANICHAEAN - 1gow 12 5 b
MARCHEN - 1k6o v 3 l 2 d
MASARAMGONDI - 1kao 6 2 1 2 17 4 0 2 1 2 8 9 9
MEDEFAIDRIN - 20cg 2i
MEETEIMAYEK - xr4 m 5m 19 3 9
MENDEKIKAKUI - 2oe8 5g 3 f
MEROITICCURSIVE - 1ggw n 5 j 3 19
MEROITICHIEROGLYPHS - 1gg0 v
MIAO - 20hs 22 5 1k 8 g
MODI - 1iww 1w c 9
MONGOLIAN MONG 4qo 1 3 0 2 j 7 2g 8 16 1e46 c
MRO - 1zk0 u 2 9 5 1
MULTANI - 1i80 6 2 0 2 3 2 e 2 a
MYANMAR MYMR 35s 4f u9t u 2q v le9 j
NABATAEAN - 1g8w u 9 8
NANDINAGARI - 1jmo 7 3 19 3 a
NEWTAILUE - 51c 17 5 p 7 a 4 1
NEWA - 1iio 2j 2 4
NKO - 1j4 1m 3 2
NUSHU - 20o1 0 cy7 az
NYIAKENGPUACHUEHMONG - 2n0g 18 4 d 3 9 5 1
OGHAM OGAM 4g0 s
OLCHIKI - 5lc 1b
OLDHUNGARIAN - 1h1c 1e e 1e 8 5
OLDITALIC - 1f5s z a 2
OLDNORTHARABIAN - 1gn4 v
OLDPERMIC - 1f80 16
OLDPERSIAN - 1fa8 z 5 d
OLDSOGDIAN - 1hj4 13
OLDSOUTHARABIAN - 1gm8 v
OLDTURKIC - 1gxs 20
OLDUYGHUR - 1hm8 p
ORIYA ORYA 269 2 2 7 3 1 3 l 2 6 2 1 2 4 3 8 3 1 3 2 8 2 5 1 2 4 3 h
OSAGE - 1fhs z 5 z
OSMANYA - 1fgg t 3 9
PAHAWHHMONG - 1zpc 1x b 9 2 6 2 k 6 i
PALMYRENE - 1g80 v
PAUCINHAU - 1juo 1k
PHAGSPA - x8g 1j
PHOENICIAN - 1gcg r 4 0
PSALTERPAHLAVI - 1gu8 h 8 3 d 6
REJANG - xf4 z c 0
RUNIC RUNR 4gw 22 4 a
SAMARITAN - 1kw 19 3 e
SAURASHTRA - xa8 1x 9 b
SHARADA - 1i0w 2n 1vl 7
SHAVIAN - 1ff4 1b
SIDDHAM - 1itc 1h 3 11
SIGNWRITING - 2l8g i3 g 4 2 e
SINHALA SINH 2o1 2 2 h 4 n 2 8 2 0 3 6 4 0 5 5 2 0 2 7 7 9 3 2 1fcd j
SOGDIAN - 1hkg 15
SORASOMPENG - 1hw0 o 8 9
SOYOMBO - 1jrk 2a
SUNDANESE - 5fk 1r 75 7
SYLOTINAGRI - x6o 18
SYRIAC SYRC 1ds d 2 1n 3 2 7l a
TAGALOG TGLG 4jk l a 0
TAGBANWA - 4m8 c 2 2 2 1
TAILE - 500 t 3 4
TAITHAM - 55s 1q 2 s 3 a 7 9 7 d
TAIVIET - xog 1u p 4
TAKRI - 1j0g 1l 7 9
TAMIL TAML 29u 1 2 5 4 2 2 3 4 1 2 0 2 1 4 1 4 2 4 b 5 4 4 2 2 3 3 0 7 0 f k 1ih2 1d e 0
TANGSA - 1zlc 26 2 9
TANGUT - 20o0 0 w 5bz e9 u 2q 36
TELUGU TELU 2dc c 2 2 2 m 2 f 3 8 2 2 2 3 8 1 2 2 2 1 3 3 3 9 8 8
THAANA THAA 1hc 1d
THAI THAI 2rl 1l 6 r
TIBETAN TIBT 2yo 1z 2 z 5 12 2 z 2 e 2 6 5 1
TIFINAGH - 8xc 1j 8 1 f 0
TIRHUTA - 1im8 1z 9 9
TOTO - 2nbk u
UGARITIC - 1f9c t 2 0
VAI - wlc 8b
VITHKUQI - 1fn4 a 2 e 2 6 2 1 2 a 2 e 2 6 2 1
WANCHO - 2ncw 1l 6 0
WARANGCITI - 1jfk 2a d 0
YEZIDI - 1hfk 15 2 2 3 1
YI YIII vls wc 4 1i
ZANABAZARSQUARE - 1jpc 1z"

def alphabeticTable : Text.RangeSet := .ofText
  "1t p 7 p 1c 0 b 0 5 0 6 m 2 u 2 cp 5 b f 4 8 0 2 0 2f 0 u h 2 1 3 3 2 0 7 0 2 2 2 0 2 j 2 2a
   2 3u 9 4l 2 11 3 0 7 14 14 d 2 0 2 1 2 1 2 0 9 q 5 3 u a 6 1j 2 6 f 2t 2 7 5 7 5 2 b 2 3 0 h
   1b e 2s p w a 1 5 0 6 n 3 i k o 8 a 6 n 2 6 8 0 9 15 b b 4 6 7 23 2 f 2 2 5 e e i 2 7 3 1 3
   l 2 6 2 0 4 3 4 7 3 1 3 1 2 0 9 0 5 1 2 4 d 1 b 0 5 2 2 5 5 1 3 l 2 6 2 1 2 1 2 1 5 4 5 1 3
   1 5 0 8 3 2 0 i 5 c 2 2 8 2 2 2 l 2 6 2 1 2 4 4 8 2 2 2 1 4 0 g 3 m 3 5 2 2 7 3 1 3 l 2 6 2
   1 2 4 4 7 3 1 3 1 a 1 5 1 2 4 e 0 h 1 2 5 4 2 2 3 4 1 2 0 2 1 4 1 4 2 4 b 5 4 4 2 2 2 4 0 7
   0 15 c 2 2 2 m 2 f 4 7 2 2 2 2 9 1 2 2 2 1 3 3 t 3 2 7 2 2 2 m 2 9 2 4 4 7 2 2 2 2 9 1 6 2 2
   3 e 2 d c 2 2 2 14 3 7 2 2 2 2 2 0 6 3 8 4 n 5 2 2 2 h 4 n 2 8 2 0 3 6 9 5 2 0 2 7 j 1 e 1l
   6 6 7 0 1g 1 2 0 2 4 2 n 2 0 2 i 2 2 3 4 2 0 7 0 f 3 x 0 1s 7 2 z 5 i 5 f 2 z 1w 1i 2 0 3 4
   h 1r b 3 3 11 2 0 6 0 3 16 2 98 2 3 3 6 2 0 2 3 3 14 2 3 3 w 2 3 3 6 2 0 2 3 3 e 2 1k 2 3 3
   1u 12 f h 2d 3 5 4 h7 3 g 2 p 6 22 4 a 8 j c k d j d c 2 2 2 1 d 1f 3 i f 0 5 0 1w 2g 8 16 6
   1x b u 2 b 5 8 o t 3 4 c 17 5 p 1j r 5 1q 3 j 1f 0 o 1 c 2 1e 1f 2 e 2 7 1g 15 3 3 b 17 2 a
   f 1i n 2 b z 3 a 6 16 3 2 16 3 2 5 2 1 4 0 6 5b k x c 7p 3 5 3 11 3 5 3 7 2 0 2 0 2 0 2 u 3
   1g 2 6 2 0 4 2 2 6 4 3 3 5 5 c 6 2 2 6 39 0 e 0 h c 2u 0 5 0 3 9 2 0 4 4 7 0 2 0 2 0 2 3 2 a
   3 3 6 4 5 0 i 14 mm 1f 1ef 6c 7 3 4 1 d 11 2 0 6 0 3 1j 8 0 h m a 6 2 6 2 6 2 6 2 6 2 6 2 6
   2 6 2 v 1c 0 d2 2 q 8 8 4 3 4 5 2d 7 2 2 2h 2 3 6 16 2 2l i v 1d f e9 533 1t h3g 1w 19 3 7g
   4 f b 1 l 1a 6 7 4 34 14 8 3 2u 3 29 l k 2 w p 1f d 1v 2 0 19 5 4 0 2 2 b w 6 y e s 4 1e 2 b
   g 0 h f b 4 2 1i a d j m 4 1w 2 0 2 0 p 2 3 f 3 3 c 5 3 5 3 5 a 6 2 6 2 16 2 d 7 3e m 8mb d
   m 5 1c 6it a5 3 2x 13 6 d 4 6 b 2 c 2 4 2 0 2 1 2 1 2 2z y a2 j 1r 3 1h 15 b 39 4 2 3q 11 p
   7 p c 2g 4 5 3 5 3 5 3 2 10 b 2 p 2 i 2 1 2 e 3 d z 3e 1y 1g 7g s 4 1c 1c v e t 6 16 6 t 3 z
   5 7 2 4 17 4d j z 5 z 5 13 9 1f d a 2 e 2 6 2 1 2 a 2 e 2 6 2 1 4 1f d 8m a l b 7 p 5 2 15 2
   8 1y 5 3 0 2 17 2 1 4 0 3 m b m a u 1u i 2 1 b l b p 7 p 13 1j 7 1 1t 3 2 1 6 7 2 2 2 s 17 s
   4 s 10 7 2 r s 1h b l b i e h 33 20 1k 1e e 1e e 13 z r 4 0 6 m 6z 15 2 1 4 1 h 5 1f 2 4 s b
   0 9 l 17 h 1b k s m a 1x 18 4 b 1k a 0 e o o 1e i 3 9 y 4 0 a 1r 2 3 a 1 b 0 2 0 10 h 2 x 3
   0 7 3 1r 6 2 0 2 3 2 e 2 9 8 1k o 3 2 7 3 1 3 l 2 6 2 1 2 4 4 7 3 1 3 1 4 0 7 0 6 6 t 9 2 0
   3 0 2 11 2 9 2 0 3 0 2 3 2 1 4 0 2 0 19 1t 2 2 2 3 l 2 v 1t 3 1 2 0 55 1h 3 6 q 5 z 1q 2 0 4
   0 1o 1h 3 0 20 q 3 d m 6 56 1k 2w 1r w 7 3 0 3 7 2 1 2 t 2 1 3 1 3 3 2m 7 3 19 3 5 2 0 2 1 s
   1e 3 9 i 1z 6 0 j 20 2w 7 2h w w 8 2 18 2 6 2 0 1e t 3 l 2 d 22 6 2 1 2 17 4 0 2 1 2 2 2 0 3
   1 p 5 2 1 2 10 2 1 2 3 2 0 o 17 79 m a g 2 14 4 2 34 0 28 pl 2v 32 i 5f 219 2o g tr i 5 q
   32y 6 g6 5a2 1a 1ci fs 8 u i 26 i t j 1b h 3 w k 6 i c1 18 5w 1r x o 3 o 19 22 5 1k 8 g 1t 1
   2 0 d 6 a 5p1 16 v 2q 36 6pq 3 2 6 2 1 2 82 g 0 u 2 3 0 f 3 9 az 1s5 2y 6 c 4 8 8 9 5 0 4ma
   2c 2 1y 2 1 3 0 3 1 3 3 2 b 2 0 2 6 2 1s 2 3 3 7 2 6 2 r 2 3 2 4 2 0 4 6 2 9f 3 o 2 o 2 u 2
   o 2 u 2 o 2 u 2 o 2 u 2 o 2 7 1f9 u 7 5 5y 6 2 g 3 6 2 1 2 4 6 1p y 0 35 18 b 6 h 0 8y t j
   17 dh r 6d t 3 0 5s u 2 l 9 1 69 6 2 3 2 1 2 e 2 5g 1o 1v 4 0 4 0 xh 3 2 q 2 1 2 0 3 0 2 9 2
   3 2 0 2 0 7 0 5 0 2 0 2 0 2 2 2 1 2 0 3 0 2 0 2 0 2 0 2 0 2 1 2 0 3 3 2 6 2 3 2 3 2 0 2 9 2
   g 6 2 2 4 2 g hh p 7 p 7 p 2uv wyn x 3dp 3 4gd 3 5rk g h9 1wj f1 15v 3t6 6 6jt"

def uppercaseTable : Text.RangeSet := .ofText
  "1t p 2u m 2 6 y 0 2 0 2 0 2 0 2 0 2 0 2 0 2 0 2 0 2 0 2 0 2 0 2 0 2 0 2 0 2 0 2 0 2 0 2 0 2
   0 2 0 2 0 2 0 2 0 2 0 2 0 2 0 2 0 3 0 2 0 2 0 2 0 2 0 2 0 2 0 2 0 3 0 2 0 2 0 2 0 2 0 2 0 2
   0 2 0 2 0 2 0 2 0 2 0 2 0 2 0 2 0 2 0 2 0 2 0 2 0 2 0 2 0 2 0 2 0 2 1 2 0 2 0 4 1 2 0 2 1 2
   2 3 3 2 1 2 2 4 1 2 1 2 0 2 0 2 1 2 0 3 0 2 1 2 2 2 0 2 1 4 0 8 0 3 0 3 0 3 0 2 0 2 0 2 0 2
   0 2 0 2 0 2 0 3 0 2 0 2 0 2 0 2 0 2 0 2 0 2 0 2 0 3 0 3 0 2 2 2 0 2 0 2 0 2 0 2 0 2 0 2 0 2
   0 2 0 2 0 2 0 2 0 2 0 2 0 2 0 2 0 2 0 2 0 2 0 2 0 2 0 2 0 2 0 2 0 2 0 2 0 2 0 2 0 2 0 8 1 2
   1 3 0 2 3 2 0 2 0 2 0 2 0 82 0 2 0 4 0 9 0 7 0 2 2 2 0 2 1 2 g 2 8 10 0 3 2 4 0 2 0 2 0 2 0
   2 0 2 0 2 0 2 0 2 0 2 0 2 0 2 0 6 0 3 0 2 1 3 1e 1d 0 2 0 2 0 2 0 2 0 2 0 2 0 2 0 2 0 2 0 2
   0 2 0 2 0 2 0 2 0 2 0 2 0 a 0 2 0 2 0 2 0 2 0 2 0 2 0 2 0 2 0 2 0 2 0 2 0 2 0 2 0 2 0 2 0 2
   0 2 0 2 0 2 0 2 0 2 0 2 0 2 0 2 0 2 0 2 0 2 1 2 0 2 0 2 0 2 0 2 0 2 0 3 0 2 0 2 0 2 0 2 0 2
   0 2 0 2 0 2 0 2 0 2 0 2 0 2 0 2 0 2 0 2 0 2 0 2 0 2 0 2 0 2 0 2 0 2 0 2 0 2 0 2 0 2 0 2 0 2
   0 2 0 2 0 2 0 2 0 2 0 2 0 2 0 2 0 2 0 2 0 2 0 2 0 2 0 2 0 2 0 2 0 2 0 2 0 2 0 3 11 28a 11 2
   0 6 0 k3 2d 1p0 0 7 16 3 2 8x 0 2 0 2 0 2 0 2 0 2 0 2 0 2 0 2 0 2 0 2 0 2 0 2 0 2 0 2 0 2 0
   2 0 2 0 2 0 2 0 2 0 2 0 2 0 2 0 2 0 2 0 2 0 2 0 2 0 2 0 2 0 2 0 2 0 2 0 2 0 2 0 2 0 2 0 2 0
   2 0 2 0 2 0 2 0 2 0 2 0 2 0 2 0 2 0 2 0 2 0 2 0 2 0 2 0 2 0 2 0 2 0 2 0 2 0 2 0 2 0 2 0 2 0
   2 0 2 0 2 0 2 0 2 0 2 0 2 0 2 0 2 0 2 0 2 0 2 0 2 0 a 0 2 0 2 0 2 0 2 0 2 0 2 0 2 0 2 0 2 0
   2 0 2 0 2 0 2 0 2 0 2 0 2 0 2 0 2 0 2 0 2 0 2 0 2 0 2 0 2 0 2 0 2 0 2 0 2 0 2 0 2 0 2 0 2 0
   2 0 2 0 2 0 2 0 2 0 2 0 2 0 2 0 2 0 2 0 2 0 2 0 2 0 2 0 2 0 2 0 a 7 9 5 b 7 9 7 9 5 c 0 2 0
   2 0 2 0 9 7 21 3 d 3 d 3 d 4 c 3 7b 0 5 0 4 2 3 2 3 0 4 4 7 0 2 0 2 0 2 3 3 3 b 1 6 0 r f k
   0 mr p 1f5 1b 1d 0 2 2 3 0 2 0 2 0 2 3 2 0 3 0 9 2 2 0 2 0 2 0 2 0 2 0 2 0 2 0 2 0 2 0 2 0 2
   0 2 0 2 0 2 0 2 0 2 0 2 0 2 0 2 0 2 0 2 0 2 0 2 0 2 0 2 0 2 0 2 0 2 0 2 0 2 0 2 0 2 0 2 0 2
   0 2 0 2 0 2 0 2 0 2 0 2 0 2 0 2 0 2 0 2 0 2 0 2 0 2 0 2 0 2 0 9 0 2 0 5 0 nym 0 2 0 2 0 2 0
   2 0 2 0 2 0 2 0 2 0 2 0 2 0 2 0 2 0 2 0 2 0 2 0 2 0 2 0 2 0 2 0 2 0 2 0 2 0 k 0 2 0 2 0 2 0
   2 0 2 0 2 0 2 0 2 0 2 0 2 0 2 0 2 0 2 0 3s 0 2 0 2 0 2 0 2 0 2 0 2 0 4 0 2 0 2 0 2 0 2 0 2 0
   2 0 2 0 2 0 2 0 2 0 2 0 2 0 2 0 2 0 2 0 2 0 2 0 2 0 2 0 2 0 2 0 2 0 2 0 2 0 2 0 2 0 2 0 2 0
   2 0 2 0 b 0 2 0 2 1 2 0 2 0 2 0 2 0 5 0 2 0 3 0 2 0 4 0 2 0 2 0 2 0 2 0 2 0 2 0 2 0 2 0 2 0
   2 4 2 4 2 0 2 0 2 0 2 0 2 0 2 0 2 0 2 3 2 0 2 1 2 0 2 0 2 0 2 0 2 0 2 0 2 0 2 0 p 0 h7w p xy
   13 3t z 4d a 2 e 2 6 2 1 1d7 1e 4e l 27v v gw1 v 1t o k08 p r p r p r 0 2 1 3 0 3 1 3 3 2 7
   r p r 1 2 3 3 7 2 6 s 1 2 3 2 4 2 0 4 6 s p r p r p r p r p r p v o y o y o y o y o y 0 3ee
   x 1lb p 7 p 7 p"

def lowercaseTable : Text.RangeSet := .ofText
  "2p p 1c 0 b 0 5 0 11 n 2 7 2 0 2 0 2 0 2 0 2 0 2 0 2 0 2 0 2 0 2 0 2 0 2 0 2 0 2 0 2 0 2 0 2
   0 2 0 2 0 2 0 2 0 2 0 2 0 2 0 2 0 2 0 2 0 2 1 2 0 2 0 2 0 2 0 2 0 2 0 2 0 2 1 2 0 2 0 2 0 2
   0 2 0 2 0 2 0 2 0 2 0 2 0 2 0 2 0 2 0 2 0 2 0 2 0 2 0 2 0 2 0 2 0 2 0 2 0 2 0 3 0 2 0 2 2 3
   0 2 0 3 0 4 1 5 0 3 0 4 2 3 0 3 0 2 0 2 0 3 0 2 1 2 0 3 0 4 0 2 0 3 1 3 2 7 0 3 0 3 0 2 0 2
   0 2 0 2 0 2 0 2 0 2 0 2 1 2 0 2 0 2 0 2 0 2 0 2 0 2 0 2 0 2 1 3 0 2 0 4 0 2 0 2 0 2 0 2 0 2
   0 2 0 2 0 2 0 2 0 2 0 2 0 2 0 2 0 2 0 2 0 2 0 2 0 2 0 2 0 2 0 2 0 2 0 2 0 2 0 2 0 2 0 2 0 2
   0 2 6 3 0 3 1 2 0 5 0 2 0 2 0 2 0 2 1w 3 y 8 1 v 4 2p 0 18 0 2 0 4 0 3 3 j 0 s y 2 1 4 2 2 0
   2 0 2 0 2 0 2 0 2 0 2 0 2 0 2 0 2 0 2 0 2 4 2 0 3 0 3 1 1g 1b 2 0 2 0 2 0 2 0 2 0 2 0 2 0 2
   0 2 0 2 0 2 0 2 0 2 0 2 0 2 0 2 0 2 0 a 0 2 0 2 0 2 0 2 0 2 0 2 0 2 0 2 0 2 0 2 0 2 0 2 0 2
   0 2 0 2 0 2 0 2 0 2 0 2 0 2 0 2 0 2 0 2 0 2 0 2 0 2 0 3 0 2 0 2 0 2 0 2 0 2 0 2 1 2 0 2 0 2
   0 2 0 2 0 2 0 2 0 2 0 2 0 2 0 2 0 2 0 2 0 2 0 2 0 2 0 2 0 2 0 2 0 2 0 2 0 2 0 2 0 2 0 2 0 2
   0 2 0 2 0 2 0 2 0 2 0 2 0 2 0 2 0 2 0 2 0 2 0 2 0 2 0 2 0 2 0 2 0 2 0 2 0 2 0 2 0 2 0 2 0 1d
   14 288 16 2 3 l5 5 1oj 8 2 0 3a 5b 1u 0 2 0 2 0 2 0 2 0 2 0 2 0 2 0 2 0 2 0 2 0 2 0 2 0 2 0
   2 0 2 0 2 0 2 0 2 0 2 0 2 0 2 0 2 0 2 0 2 0 2 0 2 0 2 0 2 0 2 0 2 0 2 0 2 0 2 0 2 0 2 0 2 0
   2 0 2 0 2 0 2 0 2 0 2 0 2 0 2 0 2 0 2 0 2 0 2 0 2 0 2 0 2 0 2 0 2 0 2 0 2 0 2 0 2 0 2 0 2 0
   2 0 2 0 2 0 2 0 2 0 2 0 2 0 2 0 2 0 2 0 2 0 2 0 2 0 2 0 2 8 2 0 2 0 2 0 2 0 2 0 2 0 2 0 2 0
   2 0 2 0 2 0 2 0 2 0 2 0 2 0 2 0 2 0 2 0 2 0 2 0 2 0 2 0 2 0 2 0 2 0 2 0 2 0 2 0 2 0 2 0 2 0
   2 0 2 0 2 0 2 0 2 0 2 0 2 0 2 0 2 0 2 0 2 0 2 0 2 0 2 0 2 0 2 0 2 0 2 8 9 5 b 7 9 7 9 5 b 7
   9 7 9 d 3 7 9 7 9 7 9 4 2 1 7 0 4 2 2 1 9 3 3 1 9 7 b 2 2 1 3e 0 e 0 h c 32 0 4 1 4 0 s 0 5
   0 5 0 3 1 9 3 5 0 y f 5 0 ng p 1fr 1b 2 0 4 1 2 0 2 0 2 0 5 0 2 1 2 7 4 0 2 0 2 0 2 0 2 0 2
   0 2 0 2 0 2 0 2 0 2 0 2 0 2 0 2 0 2 0 2 0 2 0 2 0 2 0 2 0 2 0 2 0 2 0 2 0 2 0 2 0 2 0 2 0 2
   0 2 0 2 0 2 0 2 0 2 0 2 0 2 0 2 0 2 0 2 0 2 0 2 0 2 0 2 0 2 0 2 0 2 0 2 0 2 0 2 0 2 1 8 0 2
   0 5 0 d 11 2 0 6 0 nx0 0 2 0 2 0 2 0 2 0 2 0 2 0 2 0 2 0 2 0 2 0 2 0 2 0 2 0 2 0 2 0 2 0 2 0
   2 0 2 0 2 0 2 0 2 0 k 0 2 0 2 0 2 0 2 0 2 0 2 0 2 0 2 0 2 0 2 0 2 0 2 0 2 2 3q 0 2 0 2 0 2 0
   2 0 2 0 2 2 2 0 2 0 2 0 2 0 2 0 2 0 2 0 2 0 2 0 2 0 2 0 2 0 2 0 2 0 2 0 2 0 2 0 2 0 2 0 2 0
   2 0 2 0 2 0 2 0 2 0 2 0 2 0 2 0 2 0 2 0 2 9 2 0 2 0 3 0 2 0 2 0 2 0 2 0 5 0 2 0 3 0 2 2 2 0
   2 0 2 0 2 0 2 0 2 0 2 0 2 0 2 0 2 0 6 0 6 0 2 0 2 0 2 0 2 0 2 0 2 0 2 0 5 0 2 0 3 0 2 0 2 0
   2 0 2 0 2 0 2 0 2 0 m 3 2 0 2 2 mu 16 2 d 7 27 fnl 6 d 4 tm p y6 13 3t z 4c a 2 e 2 6 2 1 ck
   0 3 2 2 15 2 8 zq 1e 3i l 27v v gw1 v 1o o k07 p r 6 2 h r p r 3 2 0 2 6 2 a r p r p r p r p
   r p r p r p r p r r t o 2 5 r o 2 5 r o 2 5 r o 2 5 r o 2 5 2 0 1f9 9 2 j 7 5 7a 1p 1px x"

/-- Letters, marks, decimal digits, connectors and joiners. -/
def wordTable : Text.RangeSet := .ofText
  "1c 9 8 p 5 0 2 p 1c 0 b 0 5 0 6 m 2 u 2 cp 5 b f 4 8 0 2 0 i 38 2 1 3 3 2 0 7 0 2 2 2 0 2 j
   2 2a 2 3u 2 4s 2 11 3 0 7 14 9 18 2 0 2 1 2 1 2 0 9 q 5 3 u a 6 21 5 2t 2 7 3 9 2 i 3 0 h 1m
   3 2s f 1h 5 0 3 0 3 19 j r 5 a 6 n 2 6 8 22 2 3k 3 9 2 i 2 7 3 1 3 l 2 6 2 0 4 3 3 8 3 1 3 3
   9 0 5 1 2 4 3 b b 0 2 0 3 2 2 5 5 1 3 l 2 6 2 1 2 1 2 1 3 0 2 4 5 1 3 2 4 0 8 3 2 0 8 f c 2
   2 8 2 2 2 l 2 6 2 1 2 4 3 9 2 2 2 2 3 0 g 3 3 9 a 6 2 2 2 7 3 1 3 l 2 6 2 1 2 4 3 8 3 1 3 2
   8 2 5 1 2 4 3 9 2 0 h 1 2 5 4 2 2 3 4 1 2 0 2 1 4 1 4 2 4 b 5 4 4 2 2 3 3 0 7 0 f 9 h c 2 2
   2 m 2 f 3 8 2 2 2 3 8 1 2 2 2 1 3 3 3 9 h 3 2 7 2 2 2 m 2 9 2 4 3 8 2 2 2 3 8 1 6 2 2 3 3 9
   2 2 d c 2 2 2 1e 2 2 2 4 6 3 8 4 3 9 b 5 2 2 2 h 4 n 2 8 2 0 3 6 4 0 5 5 2 0 2 7 7 9 3 1 e
   1l 6 e 2 9 14 1 2 0 2 4 2 n 2 0 2 m 3 4 2 0 2 6 2 9 3 3 x 0 o 1 7 9 c 0 2 0 2 0 5 9 2 z 5 j
   2 h 2 z a 0 1m 21 7 25 3 11 2 0 6 0 3 16 2 98 2 3 3 6 2 0 2 3 3 14 2 3 3 w 2 3 3 6 2 0 2 3 3
   e 2 1k 2 3 3 1u 3 2 x f h 2d 3 5 4 h7 3 g 2 p 6 22 4 a 8 l a l c j d c 2 2 2 1 d 2b 4 0 5 1
   3 9 y 2 2 a 7 2g 8 16 6 1x b u 2 b 5 b b 13 3 4 c 17 5 p 7 9 13 r 5 1q 2 s 3 a 7 9 e 0 9 19
   3 b l 24 4 9 i 8 d 37 d 1j 9 9 4 1c 3 a 6 16 3 2 h 2 2 12 6 et 3 5 3 11 3 5 3 7 2 0 2 0 2 0
   2 u 3 1g 2 6 2 0 4 2 2 6 4 3 3 5 5 c 6 2 2 6 g 1 1e 1 k 0 t 0 e 0 h c 1g w i 0 5 0 3 9 2 0 4
   4 7 0 2 0 2 0 2 3 2 a 3 3 6 4 5 0 i 14 mm 1f 1ef 6c 7 8 d 11 2 0 6 0 3 1j 8 0 g n a 6 2 6 2
   6 2 6 2 6 2 6 2 6 2 6 2 v 1c 0 d2 2 q e 2 4 3 4 5 2d 3 1 3 2 2 2h 2 3 6 16 2 2l i v 1d f e9
   533 1t h3g 1w 19 3 7g 4 r l 1e 2 9 2 36 12 8 3 2u 3 29 l 1i 5 0 k 1f d 1x b 9 7 n 4 0 2 1c 3
   z d s 4 1s f a 7 u 2 1i a d 3 9 7 m 4 20 p 2 3 f 3 4 b 5 3 5 3 5 a 6 2 6 2 16 2 d 7 3e 2 1 3
   9 7 8mb d m 5 1c 6it a5 3 2x 13 6 d 4 6 b 2 c 2 4 2 0 2 1 2 1 2 2z y a2 j 1r 3 1h 15 b 5 f h
   f 4 1 p 2 x 4 2 3q k 9 8 p 5 0 2 p c 2g 4 5 3 5 3 5 3 2 10 b 2 p 2 i 2 1 2 e 3 d z 3e 1y 1g
   3t 0 3n s 4 1c g 0 w v e t 6 16 6 t 3 z 5 7 2 4 17 4d 3 9 7 z 5 z 5 13 9 1f d a 2 e 2 6 2 1
   2 a 2 e 2 6 2 1 4 1f d 8m a l b 7 p 5 2 15 2 8 1y 5 3 0 2 17 2 1 4 0 3 m b m a u 1u i 2 1 b
   l b p 7 p 13 1j 7 1 1t 3 2 1 6 7 2 2 2 s 3 2 5 0 x s 4 s 10 7 2 t q 1h b l b i e h 33 20 1k
   1e e 1e e 13 9 9 7 11 4 4 2 m 6z 15 2 1 4 1 h 5 1f y b 0 9 w w l 17 k s m a 1y w f a 1n 8 0
   e o 8 9 7 1g 2 9 5 3 9 z 3 0 a 1w 5 3 2 c 2 0 10 h 2 10 7 3 1r 6 2 0 2 3 2 e 2 9 8 1m 6 9 7
   3 2 7 3 1 3 l 2 6 2 1 2 4 2 9 3 1 3 2 3 0 7 0 6 6 3 6 4 4 c 9 2 0 3 0 2 11 2 9 2 0 3 0 2 3 2
   7 e 1 u 22 6 9 5 3 v 1x 2 0 9 9 4n 1h 3 8 o 5 z 1s 4 0 c 9 13 1k 8 9 7 j t q 3 e 5 9 7 6 56
   1m 2u 21 m 7 3 0 3 7 2 1 2 t 2 1 3 8 d 9 1z 7 3 19 3 7 2 1 s 1q 9 0 9 21 4 0 j 20 2w 7 2h w
   g 9 7 8 2 18 2 8 g 9 p t 3 l 2 d 22 6 2 1 2 17 4 0 2 1 2 8 9 9 7 5 2 1 2 10 2 1 2 5 8 9 7 17
   5 9 6v m a g 2 14 4 4 e a 2e 0 28 pl 2v 32 i 5f 219 2o g tr h l b 32y 6 g6 5a2 1l 1c7 fs 8 u
   2 9 7 26 2 9 7 t 3 4 c 1i a 3 d 9 a k 6 i c1 18 4 9 5j 1r x o 3 o 19 22 5 1k 8 g 1t 1 2 1 c
   6 a 5p1 16 v 2q 36 6pq 3 2 6 2 1 2 82 g 0 u 2 3 0 f 3 9 az 1s5 2y 6 c 4 8 8 9 4 1 382 9 ef
   19 3 m f3 4 4 5 9 7 3 6 v 3 45 2 cc 2c 2 1y 2 1 3 0 3 1 3 3 2 b 2 0 2 6 2 1s 2 3 3 7 2 6 2 r
   2 3 2 4 2 0 4 6 2 9f 3 o 2 o 2 u 2 o 2 u 2 o 2 u 2 o 2 u 2 o 2 7 3 1d e9 1i 5 1d 9 0 f 0 n 4
   2 e up u 7 5 5y 6 2 g 3 6 2 1 2 4 6 1p y 0 35 18 4 d 3 9 5 0 8y u i 1l d3 15 5z 16 5i u 2 l
   9 1 69 6 2 3 2 1 2 e 2 5g c 6 16 23 5 9 x3 3 2 q 2 1 2 0 3 0 2 9 2 3 2 0 2 0 7 0 5 0 2 0 2 0
   2 2 2 1 2 0 3 0 2 0 2 0 2 0 2 0 2 1 2 0 3 3 2 6 2 3 2 3 2 0 2 9 2 g 6 2 2 4 2 g hh p 7 p 7 p
   21z 9 sn wyn x 3dp 3 4gd 3 5rk g h9 1wj f1 15v 3t6 6 6jt f62v 6n"

/-- Characters that differ in case only, where the case mappings alone do not show it. -/
def caseClasses : List (List Nat) :=
  [[0x49, 0x69, 0x130, 0x131], [0x4b, 0x6b, 0x212a], [0x53, 0x73, 0x17f], [0xdf, 0x1e9e],
   [0xc5, 0xe5, 0x212b], [0x1c4, 0x1c5, 0x1c6], [0x1c7, 0x1c8, 0x1c9], [0x1ca, 0x1cb, 0x1cc],
   [0x1f1, 0x1f2, 0x1f3], [0x392, 0x3b2, 0x3d0], [0x395, 0x3b5, 0x3f5], [0x398, 0x3b8, 0x3d1, 0x3f4],
   [0x345, 0x399, 0x3b9, 0x1fbe], [0x39a, 0x3ba, 0x3f0], [0xb5, 0x39c, 0x3bc], [0x3a0, 0x3c0, 0x3d6],
   [0x3a1, 0x3c1, 0x3f1], [0x3a3, 0x3c2, 0x3c3], [0x3a6, 0x3c6, 0x3d5], [0x3a9, 0x3c9, 0x2126],
   [0x412, 0x432, 0x1c80], [0x414, 0x434, 0x1c81], [0x41e, 0x43e, 0x1c82], [0x421, 0x441, 0x1c83],
   [0x422, 0x442, 0x1c84, 0x1c85], [0x42a, 0x44a, 0x1c86], [0x462, 0x463, 0x1c87], [0x1e60, 0x1e61, 0x1e9b],
   [0x1f80, 0x1f88], [0x1f81, 0x1f89], [0x1f82, 0x1f8a], [0x1f83, 0x1f8b],
   [0x1f84, 0x1f8c], [0x1f85, 0x1f8d], [0x1f86, 0x1f8e], [0x1f87, 0x1f8f],
   [0x1f90, 0x1f98], [0x1f91, 0x1f99], [0x1f92, 0x1f9a], [0x1f93, 0x1f9b],
   [0x1f94, 0x1f9c], [0x1f95, 0x1f9d], [0x1f96, 0x1f9e], [0x1f97, 0x1f9f],
   [0x1fa0, 0x1fa8], [0x1fa1, 0x1fa9], [0x1fa2, 0x1faa], [0x1fa3, 0x1fab],
   [0x1fa4, 0x1fac], [0x1fa5, 0x1fad], [0x1fa6, 0x1fae], [0x1fa7, 0x1faf],
   [0x1fb3, 0x1fbc], [0x1fc3, 0x1fcc], [0x1ff3, 0x1ffc], [0x1c88, 0xa64a, 0xa64b]]

end BraceTemplate.Pattern
