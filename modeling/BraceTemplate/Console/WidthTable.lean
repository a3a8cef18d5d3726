import BraceTemplate.Text.RangeTable

/-!
# BraceTemplate.Console.WidthTable

The characters that take no cell of a console line, and those that take two.
-/

namespace BraceTemplate.Console

def zeroWidthTable : Text.RangeSet := .ofText
  "0 v 2o w e 0 gj 33 7o 6 7c 18 2 0 2 1 2 1 2 0 1l 5 b a 2 0 1b k h 0 2u 7 2 5 3 1 2 3 y 0 2 0 v q
   2k a 1n 8 a 0 p 3 2 8 2 2 2 4 18 2 1h 1 7 7 17 1l 1j 2 2 h 2 6 b 1 u 2 1l 0 2 6 3 1 3 2 a 0 b 1 r
   0 3 2 1l 0 2 4 5 1 3 2 4 0 v 1 4 0 c 2 1l 0 2 7 2 2 2 2 l 1 n 5 2 2 1l 0 2 6 3 1 3 2 8 2 b 1 v 0
   1o 4 4 2 2 3 a 0 15 4 1k 0 2 6 2 2 2 3 8 1 c 1 u 2 1l 0 2 6 2 2 2 3 8 1 c 1 g 0 d 3 1k 1 2 6 2 2
   2 3 a 0 b 1 u 2 1z 0 5 5 2 0 2 7 j 1 1q 0 3 6 d 7 2r 0 3 8 c 6 22 1 s 0 2 0 2 0 5 1 1e j 2 1 6 a
   2 z a 0 2t j o 3 5 2 2 2 3 6 4 3 e b 2 0 b 3 5f 4f 9q 2 qb 3 t 2 u 1 v 1 1t v a 0 1a 4 3a 1 z 0
   3b b 5 b 64 4 1m 9 2 s 3 0 1d u 1e 4 1c g 13 8 d 2 v c 1l d 1d j 49 2 2 k 5 0 7 0 3 2 5j 1r ek 4
   p 6 1e 4 2 9 2p w 2db 2 3y 0 2p v ff 5 2y 1 n9x 3 2 9 x 1 29 1 7l 0 4 0 5 0 o 4 5 0 2c 1 1f h r h
   e 0 13 7 q c 19 3 1c d 11 0 1w d d 0 9 1 1a 2 1f 0 2 2 3 1 6 1 2 0 16 4 6 1 6l 7 2 1 8n7 27 6xr 0
   ki f h f 5s 0 6y 2 ea 0 6b 0 46 4 1af 2 2 1 6 3 15 2 5 0 4m 1 fy 3 as 1 29 2 1z a 1e 3 3f 2 1i e
   16 0 3 1 b 3 1a a 3 0 5 0 b 0 1f 2 11 d h 1 19 0 d 2 1d d 9 3 2 1 2l b 7 0 3 0 4e b m 3 1k 1 2 6
   3 1 3 2 a 0 b 1 3 6 4 4 5d h o 0 2a j 6k 6 3 8 s 1 2b g 2z c 2u e 75 e 6u 5 2 1 3 3 2 0 2 1 3y 6
   3 6 4 0 t 9 15 6 2 3 9 0 a a 1b f ba 7 2 7 2b l 2 d 3f 5 4 0 2 1 2 6 2 0 1v 4 2 1 2 4 9o 3 a 1 2
   0 1d 6 4 4 44u g 7 e asb 4 1o 6 t5 0 2 1i 8 3 2a 0 c 1 f58 1 2 3 3ml 19 3 m f3 4 4 l 3 6 v 3 45 2
   1j0 1i 5 1d 9 0 f 0 n 4 2 e 11t 6 2 g 3 6 2 1 2 4 2t 0 4h 6 ag 0 1q 3 e5 3 rl 6 32 6 241 4 gx6q 0
   v 2n 3l 6n"

def doubleWidthTable : Text.RangeSet := .ofText
  "3cw 2n 3i3 1 e 1 5b 3 4 0 3 0 ei 1 m 1 1f b 18 0 k 0 e 0 9 1 i 1 6 1 9 0 6 0 m 0 8 1 2 0 5 0 3 0
   8 0 5 1 t 0 10 0 2 0 5 2 2 0 1q 2 p 0 f 0 nw 1 1g 0 5 0 mj p 2 2g d 5x r 1l 7 e 3 2d 5 2s 6 16 2
   2l 2 2b c 1b 2 13 9 5f3 1t h3g 4 1i wq s hw 8mb 6l9 e7 lt 9 n y 2 i 2 3 46 2n 3k 6 m4a 3 t 4qf 9
   yd 17 8 6w8 3 2 6 2 1 2 82 g 0 u 2 3 0 f 3 9 az c21 0 5n 0 5b 0 3 9 2u 2 e 17 5 8 8 1 f 5 4b w d
   8 2 1x 2 l d 16 5 4 d g 4 0 4 2 6 1q 2 0 2 56 3 1q e 3 2 n j 0 r 1 e 0 2f 2c 1d 1x 7 0 4 2 3 2 5
   3 c 1 8 8 6c b 5 0 7w 1a 2 9 2 54 35 c 4 8 8 19 2 6 9 d 5 8 8 8 zs 1ekd 3 1ekd"

end BraceTemplate.Console
