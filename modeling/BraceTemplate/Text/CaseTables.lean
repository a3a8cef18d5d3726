import BraceTemplate.Text.RangeTable

/-!
# BraceTemplate.Text.CaseTables

The upper and lower case mappings of Unicode 14.0.0 above ASCII, the final sigma apart.
-/

namespace BraceTemplate.Text

def lowerTable : ShiftMap := .ofTexts
  "5c m 1 w o 6 1 w 14 n 2 1 1e 2 2 1 7 7 2 1 h m 2 1 1a 0 1 -3d 1 2 2 1 8 0 1 5u 1 1 2 1 4 0 1
   5q 1 0 1 1 2 1 1 5p 2 0 1 1 3 0 1 27 1 0 1 5m 1 0 1 5n 1 0 1 1 2 0 1 5p 1 0 1 5r 2 0 1 5v 1
   0 1 5t 1 0 1 1 4 0 1 5v 1 0 1 5x 2 0 1 5y 1 2 2 1 6 0 1 62 1 0 1 1 2 0 1 62 3 0 1 1 2 0 1 62
   1 0 1 1 2 1 1 61 2 1 2 1 4 0 1 63 1 0 1 1 4 0 1 1 8 0 1 2 1 0 1 1 2 0 1 2 1 0 1 1 2 0 1 2 1
   8 2 1 j 8 2 1 j 0 1 2 1 1 2 1 4 0 1 -2p 1 0 1 -1k 1 j 2 1 14 0 1 -3m 2 8 2 1 o 0 1 8bv 1 0 1
   1 2 0 1 -4j 1 0 1 8bs 3 0 1 1 2 0 1 -5f 1 0 1 1x 1 0 1 1z 1 4 2 1 8a 1 2 1 6 0 1 1 9 0 1 38
   7 0 1 12 2 2 1 11 4 0 1 1s 2 1 1 1r 3 g 1 w i 8 1 w 18 0 1 8 9 b 2 1 s 0 1 -1o 3 0 1 1 2 0 1
   -7 1 0 1 1 3 2 1 -3m 3 f 1 28 g v 1 w 28 g 2 1 16 q 2 1 1i 0 1 f 1 6 2 1 f 1b 2 1 2p 11 1 1c
   29b 11 1 5ls 13 0 1 5ls 6 0 1 5ls k3 27 1 tzk 28 5 1 8 1pc 16 1 -2bk 19 2 1 -2bk 8z 22 2 1
   4e 0 1 -5vj 2 1b 2 1 2w 7 1 -8 g 5 1 -8 g 7 1 -8 g 7 1 -8 g 5 1 -8 h 3 2 -8 f 7 1 -8 w 7 1
   -8 g 7 1 -8 g 7 1 -8 g 1 1 -8 2 1 1 -22 2 0 1 -9 c 3 1 -2e 4 0 1 -9 c 1 1 -8 2 1 1 -2s e 1 1
   -8 2 1 1 -34 2 0 1 -7 c 1 1 -3k 2 1 1 -3i 2 0 1 -9 8a 0 1 -5st 4 0 1 -6gv 1 0 1 -6di 7 0 1 s
   1a f 1 g z 0 1 1 mr p 1 q 1fu 1b 1 1c 2o 0 1 1 2 0 1 -8af 1 0 1 -2xy 1 0 1 -89z 3 2 2 1 6 0
   1 -8bg 1 0 1 -8al 1 0 1 -8bj 1 0 1 -8bi 2 0 1 1 3 0 1 1 9 1 1 -8cf 2 1d 2 1 2z 1 2 1 7 0 1 1
   nym m 2 1 1s d 2 1 4i 6 2 1 g u 2 1 1z 1 2 1 4 0 1 -r9g 1 4 2 1 d 0 1 1 2 0 1 -wmg 3 1 2 1 6
   9 2 1 k 0 1 -wn8 1 0 1 -wnj 1 0 1 -wnf 1 0 1 -wn5 1 0 1 -wn8 2 0 1 -wlu 1 0 1 -wmi 1 0 1
   -wlx 1 0 1 ps 1 7 2 1 g 0 1 -1c 1 0 1 -wn7 1 0 1 -raw 1 1 2 1 9 0 1 1 6 1 2 1 v 0 1 1 h7w p
   1 w yn 13 1 14 4w z 1 14 5c a 1 13 c e 1 13 g 6 1 13 8 1 1 13 1d8 1e 1 1s 2e8 v 1 w gww v 1
   w o8w x 1 y"
  "2 8g 2x lj"

def upperTable : ShiftMap := .ofTexts
  "51 0 1 kn 17 m 1 -w o 6 1 -w 7 0 1 3d 2 n 2 -1 1c 0 1 -6g 2 2 2 -1 7 7 2 -1 h m 2 -1 1b 2 2
   -1 5 0 1 -8c 1 0 1 5f 3 1 2 -1 5 0 1 -1 4 0 1 -1 6 0 1 -1 3 0 1 2p 4 0 1 -1 1 0 1 4j 4 0 1
   3m 3 2 2 -1 7 0 1 -1 5 0 1 -1 3 0 1 -1 4 1 2 -1 5 0 1 -1 4 0 1 -1 2 0 1 1k 6 0 1 -1 1 0 1 -2
   2 0 1 -1 1 0 1 -2 2 0 1 -1 1 0 1 -2 2 7 2 -1 f 0 1 -27 2 8 2 -1 j 0 1 -1 1 0 1 -2 2 0 1 -1 4
   j 2 -1 16 8 2 -1 p 0 1 -1 3 1 1 8cf 3 0 1 -1 5 4 2 -1 9 0 1 8bj 1 0 1 8bg 1 0 1 8bi 1 0 1
   -5u 1 0 1 -5q 2 1 1 -5p 3 0 1 -5m 2 0 1 -5n 1 0 1 wnj 4 0 1 -5p 1 0 1 wnf 2 0 1 -5r 2 0 1
   wmg 1 0 1 wn8 2 0 1 -5t 1 0 1 -5v 1 0 1 wn8 1 0 1 8af 1 0 1 wn5 3 0 1 -5v 2 0 1 8al 1 0 1
   -5x 3 0 1 -5y 8 0 1 89z 3 0 1 -62 2 0 1 wn7 1 0 1 -62 4 0 1 wmi 1 0 1 -62 1 0 1 -1x 1 1 1
   -61 2 0 1 -1z 6 0 1 -63 b 0 1 wlx 1 0 1 wlu 4n 0 1 2c 18 1 2 -1 6 0 1 -1 4 2 1 3m 1d 0 1 -12
   1 2 1 -11 4 g 1 -w h 0 1 -v 1 8 1 -w 9 0 1 -1s 1 1 1 -1r 3 0 1 -1q 1 0 1 -1l 4 0 1 -1b 1 0 1
   -1i 1 0 1 -8 2 b 2 -1 n 0 1 -2e 1 0 1 -28 1 0 1 7 1 0 1 -38 2 0 1 -2o 3 0 1 -1 3 0 1 -1 1h v
   1 -w w f 1 -28 h g 2 -1 16 q 2 -1 1j 6 2 -1 d 0 1 -f 2 1b 2 -1 40 11 1 -1c 29b 16 1 2bk 19 2
   1 2bk l7 5 1 -8 1oo 0 1 -4tq 1 0 1 -4tp 1 0 1 -4tg 1 1 1 -4te 2 0 1 -4tf 1 0 1 -4t8 1 0 1
   -4rp 1 0 1 r7m 6p 0 1 r9g 4 0 1 2xy h 0 1 raw 37 22 2 -1 4a 0 1 -1n 6 1b 2 -1 2n 7 1 8 g 5 1
   8 g 7 1 8 g 7 1 8 g 5 1 8 h 3 2 8 f 7 1 8 g 1 1 22 2 3 1 2e 4 1 1 2s 2 1 1 3k 2 1 1 34 2 1 1
   3i 1g 1 1 8 e 0 1 -5k5 i 1 1 8 g 1 1 8 5 0 1 7 a1 0 1 -s y f 1 -g k 0 1 -1 ng p 1 -q 1gg 1b
   1 -1c 1d 0 1 -1 4 0 1 -8bv 1 0 1 -8bs 2 2 2 -1 b 0 1 -1 3 0 1 -1 b 1d 2 -1 2z 1 2 -1 7 0 1
   -1 d 11 1 -5ls 13 0 1 -5ls 6 0 1 -5ls nx0 m 2 -1 1s d 2 -1 4i 6 2 -1 g u 2 -1 1z 1 2 -1 5 4
   2 -1 d 0 1 -1 5 1 2 -1 3 0 1 1c 3 9 2 -1 u 7 2 -1 j 1 2 -1 9 0 1 -1 6 1 2 -1 v 0 1 -1 nx 0 1
   -ps t 27 1 -tzk gk1 p 1 -w yv 13 1 -14 4w z 1 -14 5b a 1 -13 c e 1 -13 g 6 1 -13 8 1 1 -13
   1dx 1e 1 -1s 2dc v 1 -w gww v 1 -w o8y x 1 -y"
  "2 67 2b 2b 2 95 jg 26 2 ds 22 lo 3 pc pl lk ld 3 q8 px lk ld 2 13b 111 11u 2 61i 20 mp 2 61j
   2c lk 2 61k 2f lm 2 61l 2h lm 2 61m 1t ji 2 66o px lv 3 66q px lv lc 3 66s px lv ld 3 66u px
   lv n6 2 680 64o pl 2 681 64p pl 2 682 64q pl 2 683 64r pl 2 684 64s pl 2 685 64t pl 2 686
   64u pl 2 687 64v pl 2 688 64o pl 2 689 64p pl 2 68a 64q pl 2 68b 64r pl 2 68c 64s pl 2 68d
   64t pl 2 68e 64u pl 2 68f 64v pl 2 68g 65k pl 2 68h 65l pl 2 68i 65m pl 2 68j 65n pl 2 68k
   65o pl 2 68l 65p pl 2 68m 65q pl 2 68n 65r pl 2 68o 65k pl 2 68p 65l pl 2 68q 65m pl 2 68r
   65n pl 2 68s 65o pl 2 68t 65p pl 2 68u 65q pl 2 68v 65r pl 2 68w 67c pl 2 68x 67d pl 2 68y
   67e pl 2 68z 67f pl 2 690 67g pl 2 691 67h pl 2 692 67i pl 2 693 67j pl 2 694 67c pl 2 695
   67d pl 2 696 67e pl 2 697 67f pl 2 698 67g pl 2 699 67h pl 2 69a 67i pl 2 69b 67j pl 2 69e
   69m pl 2 69f pd pl 2 69g p2 pl 2 69i pd n6 3 69j pd n6 pl 2 69o pd pl 2 69u 6a2 pl 2 69v pj
   pl 2 69w p5 pl 2 69y pj n6 3 69z pj n6 pl 2 6a4 pj pl 3 6aa pl lk lc 3 6ab pl lk ld 2 6ae pl
   n6 3 6af pl lk n6 3 6aq px lk lc 3 6ar px lk ld 2 6as pt lv 2 6au px n6 3 6av px lk n6 2 6b6
   6be pl 2 6b7 q1 pl 2 6b8 pb pl 2 6ba q1 n6 3 6bb q1 n6 pl 2 6bg q1 pl 2 1dkw 1y 1y 2 1dkx 1y
   21 2 1dky 1y 24 3 1dkz 1y 1y 21 3 1dl0 1y 1y 24 2 1dl1 2b 2c 2 1dl2 2b 2c 2 1dlf 11g 11i 2
   1dlg 11g 111 2 1dlh 11g 117 2 1dli 11q 11i 2 1dlj 11g 119"

end BraceTemplate.Text
