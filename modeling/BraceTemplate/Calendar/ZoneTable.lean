/-!
# BraceTemplate.Calendar.ZoneTable

Time zones of the public database. A row holds the names of a zone, its kinds of local time (offset
in seconds, and 1 for daylight saving time), the transitions (distance from the one before and the
kind that begins) and the rule for all later times. Numbers are in base 36. A distance is in
quarters of an hour, or in seconds behind a minus sign; the first is counted from `zoneTableStart`.
The kind before the first transition is the first one. A rule is an offset, or two offsets and for
each the month, week, weekday and second of the day at which daylight saving time begins and ends.
-/

namespace BraceTemplate.Calendar

/-- Seconds from 1 January 1970 to the place where distances begin. -/
def zoneTableStart : Int := -9000000000

def zoneRows : String :=
  "Africa/Abidjan | -qw 0 0 0 | -3aklruw 1 | 0 ; Africa/Accra | -1g 0 0 0 xc 1 1e0 0 1e0 1 |
   -3cko75g 1 -24aamk 2 -1yhyo 1 -cjvlc 2 -69weo 1 -ci0xc 2 -69weo 1 -ci0xc 2 -69weo 1 -ci0xc 2
   -69weo 1 -cjvlc 2 -69weo 1 -ci0xc 2 -69weo 1 -ci0xc 2 -69weo 1 -ci0xc 2 -69weo 1 -cjvlc 2 -69weo
   1 -ci0xc 2 -69weo 1 -ci0xc 2 -69weo 1 -ci0xc 2 -69weo 1 -cjvlc 2 -69weo 1 -ci0xc 2 -69weo 1
   -ci0xc 2 -69weo 1 -ci0xc 2 -69weo 1 -cjvlc 2 -69weo 1 -ci0xc 2 -69weo 1 -ci0xc 2 -69weo 1 -ci0xc
   2 -69weo 1 -683lc 2 -cloeo 1 -668xc 2 -cloeo 1 -1y8pc 3 2xry 1 3huy 4 91a 1 i02 4 91a 1 i2q 4
   91a 1 i02 4 91a 1 i02 4 91a 1 i02 4 91a 1 | 0 ; Africa/Addis_Ababa | 760 0 76w 0 8c0 0 |
   -2onjzy0 1 -ymedb4 2 | 8c0 ; Africa/Algiers | kc 0 fl 0 0 0 2s0 1 2s0 0 5k0 1 | -2zpwx7o 1
   -afgo4r 2 -2qx1nl 3 82o 2 cw0 3 elc 2 bc0 3 fmo 2 atc 3 g5c 2 9s0 3 io0 2 aio 3 7c0 2 dp1c 3 51g
   2 79k 4 3318 5 dx8 4 d1g 5 cd4 4 slc 2 6zxg 4 5eyk 2 61c0 3 beo 2 47pg 3 cfw 4 bes 5 dhg 4 tjs 2
   dhg 3 e04 2 dh8 4 | 2s0 ; Africa/Asmara Africa/Asmera | 778 0 76w 0 8c0 0 | -2z3brws 1 -o6mlcc 2
   | 8c0 ; Africa/Bamako Africa/Timbuktu | -1hc 0 0 0 -2s0 0 | -3aklslc 1 -bk956o 2 jrxg 1 | 0 ;
   Africa/Bangui | 3fw 0 2s0 0 | -3aklno4 1 | 2s0 ; Africa/Banjul | -330 0 -2s0 0 0 0 | -3lnu270 1
   -4m1rp0 2 | 0 ; Africa/Bissau | -2vw 0 -2s0 0 0 0 | 4qqsk 1 1bcio 2 | 0 ; Africa/Blantyre | 6hc
   0 6ja 0 6j0 0 5k0 0 | -3acbfao 1 -1j56m2 2 -5qqlca 3 | 5k0 ; Africa/Brazzaville | 2tw 0 2s0 0 |
   -3akloa4 1 | 2s0 ; Africa/Bujumbura | 5fs 0 5k0 0 | -2z3bto8 1 | 5k0 ; Africa/Cairo Egypt | 5sl
   0 5k0 0 8c0 1 | -34p8bzf 1 -krj48l 2 5rw 1 eis 2 bek 1 elg 2 fh8 1 bk4 2 fuk 1 b9g 2 fuk 1 cas 2
   eqk 1 8npg 2 anw 1 fpg 2 bbw 1 fpk 2 b9g 1 fuk 2 b9g 1 frw 2 b9g 1 frw 2 b9g 1 frw 2 b9g 1 fuk 2
   b9g 1 frw 2 b9g 1 frw 2 bc4 1 fp8 2 bc4 1 frw 2 bc4 1 fp8 2 bc4 1 fp8 2 bc4 1 fp8 2 bc4 1 frw 2
   bc4 1 fp8 2 bc4 1 fp8 2 bc4 1 fp8 2 bc4 1 frw 2 bc4 1 fp8 2 bc4 1 fp8 2 bc4 1 fp8 2 bc4 1 frw 2
   bc4 1 fp8 2 bc4 1 lzw 2 51g 1 l18 2 604 1 frw 2 bc4 1 fp8 2 bc4 1 fp8 2 bc4 1 fp8 2 bc4 1 frw 2
   bc4 1 g2k 2 ays 1 fp8 2 bc4 1 fp8 2 bc4 1 frw 2 bc4 1 fp8 2 bc4 1 fp8 2 bc4 1 fh4 2 bek 1 fk4 2
   bek 1 fk4 2 bek 1 fk4 2 bek 1 g2s 2 bek 1 fk4 2 bek 1 fk4 2 bek 1 fk4 2 bek 1 fk4 2 bek 1 g2s 2
   bek 1 fk4 2 bek 1 fk4 2 avw 1 g2s 2 9uk 1 h44 2 9bw 1 hms 2 8t8 1 io4 2 7mk 1 284 2 1jw 1 2q04 2
   33w 1 2lg 2 458 1 6gas 2 | 5k0 8c0 4 5 5 0 a 5 4 1uo0 ; Africa/Casablanca | -1ek 0 0 0 2s0 1 2s0
   0 | -3birf6k 1 -di7nxg 2 518 1 79g 2 4b18 1 3fes 2 ad8 1 ch04 2 8uk 1 522s 2 53w 1 191g 2 6t8 1
   k84 2 b3w 1 i84 2 4qk 1 47xg 3 1cl8 1 gug4 2 6t8 1 k84 2 5zw 1 itg 2 798 1 hms 2 8t8 1 k8c 2 62o
   1 2ao 2 31c 1 fk0 2 56o 1 2io 2 5s0 1 beo 2 6o0 1 2lc 2 6ao 1 beo 2 5pc 1 2lc 2 79c 1 beo 2 56o
   1 2lc 2 8ao 1 aw0 2 45c 1 340 2 8tc 1 aw0 2 3mo 1 2lc 2 nuo 1 2lc 2 nc0 1 340 2 nc0 1 2lc 2 nc0
   1 340 2 nc0 1 2lc 2 nuo 1 2lc 2 nc0 1 340 2 nc0 1 2lc 2 nuo 1 2lc 2 nc0 1 340 2 nc0 1 2lc 2 nc0
   1 340 2 nc0 1 2lc 2 nuo 1 2lc 2 nc0 1 340 2 nc0 1 2lc 2 nc0 1 340 2 nc0 1 340 2 nc0 1 2lc 2 nc0
   1 340 2 nc0 1 2lc 2 nuo 1 2lc 2 nc0 1 340 2 nc0 1 2lc 2 nc0 1 340 2 nc0 1 340 2 nc0 1 2lc 2 nc0
   1 340 2 nc0 1 2lc 2 nuo 1 2lc 2 nc0 1 340 2 nc0 1 2lc 2 nc0 1 340 2 nc0 1 340 2 nc0 1 2lc 2 nc0
   1 340 2 nc0 1 2lc 2 nuo 1 2lc 2 nc0 1 340 2 nc0 1 2lc 2 nc0 1 340 2 nc0 1 340 2 nc0 1 2lc 2 nc0
   1 340 2 nc0 1 2lc 2 nuo 1 2lc 2 nc0 1 340 2 nc0 1 2lc 2 nc0 1 340 2 nc0 1 340 2 nc0 1 2lc 2 nc0
   1 340 2 nc0 1 2lc 2 nuo 1 2lc 2 nc0 1 340 2 nc0 1 2lc 2 nc0 1 340 2 nc0 1 340 2 nc0 1 2lc 2 nc0
   1 340 2 nc0 1 2lc 2 nuo 1 2lc 2 nc0 1 340 2 nc0 1 2lc 2 nc0 1 340 2 nc0 1 2lc 2 nuo 1 2lc 2 nc0
   1 340 2 nc0 1 2lc 2 nuo 1 2lc 2 nc0 1 340 2 | 2s0 ; Africa/Ceuta | -zg 0 0 0 2s0 1 2s0 0 5k0 1 |
   4ih8g 1 d198 2 bek 1 45hg 2 co4 1 15h8 2 cg4 1 dzw 2 cys 1 eio 2 cyo 1 t1tc 2 8uk 1 522s 2 53w 1
   191g 2 6t8 1 k84 2 b3w 1 i84 2 4qk 1 47xg 3 1j44 4 dhc 3 dhc 4 dhc 3 dhc 4 dhc 3 dhc 4 dhc 3 dhc
   4 e00 3 dhc 4 dhc 3 dhc 4 dhc 3 dhc 4 dhc 3 dhc 4 dhc 3 dhc 4 dhc 3 e00 4 | 2s0 5k0 3 5 0 5k0 a
   5 0 8c0 ; Africa/Conakry | -2jg 0 0 0 -2s0 0 | -3akltng 1 -bk944k 2 jf9g 1 | 0 ; Africa/Dakar |
   -388 0 -2s0 0 0 0 | -3akluc8 1 -fcoa7s 2 | 0 ; Africa/Dar_es_Salaam | 79w 0 8c0 0 7n0 0 |
   -3khlei4 1 -8ve49w 2 9rs1 1 | 8c0 ; Africa/Djibouti | 7zo 0 8c0 0 | -3ab4sgc 1 | 8c0 ;
   Africa/Douala | 1so 0 2s0 0 | -3aklpbc 1 | 2s0 ; Africa/El_Aaiun | -2g0 0 -2s0 0 0 0 2s0 1 |
   -3m1zaw0 1 -m2g0c0 2 198 3 6t8 2 k84 3 b3w 2 i84 3 4qk 2 meys 3 6t8 2 k84 3 5zw 2 itg 3 798 2
   hms 3 8t8 2 k8c 3 62o 2 2ao 3 31c 2 fk0 3 56o 2 2io 3 5s0 2 beo 3 6o0 2 2lc 3 6ao 2 beo 3 5pc 2
   2lc 3 79c 2 beo 3 56o 2 2lc 3 8ao 2 aw0 3 45c 2 340 3 8tc 2 aw0 3 3mo 2 2lc 3 nuo 2 2lc 3 nc0 2
   340 3 nc0 2 2lc 3 nc0 2 340 3 nc0 2 2lc 3 nuo 2 2lc 3 nc0 2 340 3 nc0 2 2lc 3 nuo 2 2lc 3 nc0 2
   340 3 nc0 2 2lc 3 nc0 2 340 3 nc0 2 2lc 3 nuo 2 2lc 3 nc0 2 340 3 nc0 2 2lc 3 nc0 2 340 3 nc0 2
   340 3 nc0 2 2lc 3 nc0 2 340 3 nc0 2 2lc 3 nuo 2 2lc 3 nc0 2 340 3 nc0 2 2lc 3 nc0 2 340 3 nc0 2
   340 3 nc0 2 2lc 3 nc0 2 340 3 nc0 2 2lc 3 nuo 2 2lc 3 nc0 2 340 3 nc0 2 2lc 3 nc0 2 340 3 nc0 2
   340 3 nc0 2 2lc 3 nc0 2 340 3 nc0 2 2lc 3 nuo 2 2lc 3 nc0 2 340 3 nc0 2 2lc 3 nc0 2 340 3 nc0 2
   340 3 nc0 2 2lc 3 nc0 2 340 3 nc0 2 2lc 3 nuo 2 2lc 3 nc0 2 340 3 nc0 2 2lc 3 nc0 2 340 3 nc0 2
   340 3 nc0 2 2lc 3 nc0 2 340 3 nc0 2 2lc 3 nuo 2 2lc 3 nc0 2 340 3 nc0 2 2lc 3 nc0 2 340 3 nc0 2
   340 3 nc0 2 2lc 3 nc0 2 340 3 nc0 2 2lc 3 nuo 2 2lc 3 nc0 2 340 3 nc0 2 2lc 3 nc0 2 340 3 nc0 2
   2lc 3 nuo 2 2lc 3 nc0 2 340 3 nc0 2 2lc 3 nuo 2 2lc 3 nc0 2 340 3 | 2s0 ; Africa/Freetown | -2gc
   0 -2s0 0 -1uo 1 0 0 | -3bcqs8c 1 -a4v6zo 2 -681qo 1 -7vcxc 2 -awkeo 1 -7vcxc 2 -awkeo 1 -7vcxc 2
   -ayf2o 1 -7vcxc 2 -awkeo 1 -7vcxc 2 -awkeo 1 -7vcxc 2 -e1j2o 1 -4qe9c 2 -7dqo 1 -16dy9c 3 | 0 ;
   Africa/Gaborone | 4ss 0 460 0 5k0 0 8c0 1 | -2whecz8 1 -9h5hys 2 uh6u 3 dh8 2 | 5k0 ;
   Africa/Harare | 5r0 0 5k0 0 | -35yjtd0 1 | 5k0 ; Africa/Johannesburg | 56o 0 460 0 5k0 0 8c0 1 |
   -306u1xc 1 -5rpt0o 2 tq86 3 dh8 2 dhg 3 dh8 2 | 5k0 ; Africa/Juba | 5us 0 5k0 0 8c0 1 8c0 0 |
   -3khlfx8 1 -kixuys 2 cd8 1 elg 2 cfw 1 eo4 2 cfw 1 eis 2 cik 1 eg4 2 cl8 1 edg 2 cnw 1 eas 2 ct8
   1 e5g 2 cvw 1 elg 2 cfw 1 eis 2 cik 1 eg4 2 cnw 1 eas 2 cqk 1 e84 2 ct8 1 e5g 2 cvw 1 elg 2 cik
   1 eg4 2 cl8 1 aplg 3 ftfw 1 | 5k0 ; Africa/Kampala | 604 0 8c0 0 6y0 0 7n0 0 | -3j6kufw 1 -s8lo4
   2 diyq 3 6rjz 1 | 8c0 ; Africa/Khartoum | 60w 0 5k0 0 8c0 1 8c0 0 | -3khlfr4 1 -kixv4w 2 cd8 1
   elg 2 cfw 1 eo4 2 cfw 1 eis 2 cik 1 eg4 2 cl8 1 edg 2 cnw 1 eas 2 ct8 1 e5g 2 cvw 1 elg 2 cfw 1
   eis 2 cik 1 eg4 2 cnw 1 eas 2 cqk 1 e84 2 ct8 1 e5g 2 cvw 1 elg 2 cik 1 eg4 2 cl8 1 aplg 3 ddfw
   1 | 5k0 ; Africa/Kigali | 5kg 0 5k0 0 | -3msimvk 1 | 5k0 ; Africa/Kinshasa | 2u0 0 2s0 0 |
   -336wuy0 1 | 2s0 ; Africa/Lagos | mn 0 0 0 1e0 0 2s0 0 | -376fl5d 1 -1kdnan 0 -2ve7dd 2 -2yfgkn
   3 | 2s0 ; Africa/Libreville | 1r0 0 2s0 0 | -3aklpd0 1 | 2s0 ; Africa/Lome | 84 0 0 0 | -30npljw
   1 | 0 ; Africa/Luanda | 2g8 0 2es 0 2s0 0 | -304vrbs 1 -afpx08 2 | 2s0 ; Africa/Lubumbashi | 534
   0 2s0 0 5k0 0 | -336wsow 1 -bpwyb4 2 | 5k0 ; Africa/Lusaka | 58k 0 5k0 0 | -35yjtvg 1 | 5k0 ;
   Africa/Malabo | 1mk 0 0 0 2s0 0 | -3aklphg 1 -r44sak 2 | 2s0 ; Africa/Maputo | 616 0 5k0 0 |
   -3909t2u 1 | 5k0 ; Africa/Maseru | 53c 0 5k0 0 8c0 1 | -35yju0o 1 -l5xrrc 2 dh8 1 | 5k0 ;
   Africa/Mbabane | 5rc 0 5k0 0 | -35yjtco 1 | 5k0 ; Africa/Mogadishu | 8eg 0 8c0 0 6y0 0 |
   -313cc1k 1 -je91eg 2 jjhe 1 | 8c0 ; Africa/Monrovia | -1zw 0 -226 0 0 0 | -3eb693w 1 -rl202a 2 |
   0 ; Africa/Nairobi | 6tg 0 6y0 0 8c0 0 7n0 0 | -38no2yk 1 -aiwqjg 2 14ym 1 5942 3 46yn 2 | 8c0 ;
   Africa/Ndjamena | 2sc 0 2s0 0 5k0 1 | -3aklobo 1 -zdk5cc 2 at8 1 | 2s0 ; Africa/Niamey | e4 0
   -2s0 0 0 0 2s0 0 | -3aklqpw 1 -bk99u4 2 jf98 3 | 2s0 ; Africa/Nouakchott | -2yc 0 0 0 -2s0 0 |
   -3aklu2c 1 -bk93po 2 k3us 1 | 0 ; Africa/Ouagadougou | -a4 0 0 0 | -3aklre4 1 | 0 ;
   Africa/Porto-Novo | hg 0 0 0 2s0 0 | -3aklqmk 1 -bk975g 2 | 2s0 ; Africa/Sao_Tome | 18w 0 -1p9 0
   0 0 2s0 0 | -2vykoj4 1 -em12kw 2 27nxg 3 r1c 2 | 0 ; Africa/Tripoli Libya | 2fw 0 2s0 0 5k0 1
   5k0 0 | -3eqwso4 1 -gl6ajw 2 5uc 1 1bxo 2 67o 1 1b6s 2 6vw 1 296s 3 haak 1 6o4 2 djw 1 dhg 2 djw
   1 dk4 2 djw 1 dus 2 d6k 1 dpg 2 dh8 1 dc4 2 djw 1 dk4 2 djw 1 dhg 2 djw 1 fxg 3 4tek 1 ds4 2 djw
   3 bclk 1 aao 2 fk0 3 | 5k0 ; Africa/Tunis | 1vw 0 fl 0 2s0 0 5k0 1 | -2ukzh84 1 -fke44b 2
   -enxevl 3 g2o 2 7c0 3 17k0 2 bes 3 hmw 2 aw0 3 1ek 2 lg 3 bzw 2 dhg 3 dx0 2 d1o 3 cd0 2 nrhg 3
   aw0 2 g80 3 bc0 2 79k0 3 8lc 2 dhc 3 dhc 2 g80 3 b9c 2 aylc 3 b9g 2 d44 3 g2o 2 aw0 3 g2o 2 beo
   3 fk0 2 | 2s0 ; Africa/Windhoek | 360 0 460 0 5k0 0 8c0 1 2s0 0 5k0 1 | -306u3y0 1 -5rpr00 2
   tq86 3 dh8 2 12buk 4 cdo 5 fjw 4 bes 5 g2k 4 aw4 5 g2k 4 bes 5 fjw 4 bes 5 fjw 4 bes 5 fjw 4 bes
   5 fjw 4 bes 5 g2k 4 aw4 5 g2k 4 bes 5 fjw 4 bes 5 fjw 4 bes 5 fjw 4 bes 5 fjw 4 bes 5 g2k 4 bes
   5 fjw 4 bes 5 fjw 4 bes 5 fjw 4 bes 5 fjw 4 bes 5 g2k 4 aw4 5 g2k 4 bes 5 fjw 4 bes 5 fjw 4 bes
   5 fjw 4 bes 5 3ro 2 | 5k0 ; America/Adak America/Atka US/Aleutian | xya 0 -wpq 0 -uk0 0 -rs0 1
   -rs0 0 -p00 1 | -2ni5hw1 1 -h4z1xp 2 -ln70qa 3 2qfw 2 hps4 3 dh8 2 dhg 3 dh8 2 dhg 3 dzw 2 dhg 3
   dh8 2 dhg 3 dh8 2 56s 3 lrw 2 8tg 3 i58 2 dhg 3 dzw 2 cys 3 dzw 2 dhg 3 dh8 2 dhg 3 dh8 2 dhg 3
   dh8 2 dhg 3 dh8 2 dhg 3 dzw 2 cys 3 dzw 4 dhc 5 dh8 4 dhg 5 dh8 4 dhg 5 dh8 4 bxg 5 f18 4 bxg 5
   fjw 4 bes 5 fjw 4 bes 5 fjw 4 bxg 5 f18 4 bxg 5 f18 4 bxg 5 fjw 4 bes 5 fjw 4 bes 5 fjw 4 bxg 5
   f18 4 bxg 5 f18 4 bxg 5 f18 4 bxg 5 fjw 4 bes 5 fjw 4 bes 5 fjw 4 bxg 5 f18 4 bxg 5 f18 4 bxg 5
   fjw 4 bes 5 fjw 4 bes 5 fjw 4 9us 5 | -rs0 -p00 3 2 0 5k0 b 1 0 5k0 ; America/Anchorage
   US/Alaska | 12wo 0 -rrc 0 -rs0 0 -p00 1 -p00 0 -m80 1 | -2ni5hw1 1 -h4ywzb 2 -ln72wo 3 2qfw 2
   hps4 3 dh8 2 dhg 3 dh8 2 dhg 3 dzw 2 dhg 3 dh8 2 dhg 3 dh8 2 56s 3 lrw 2 8tg 3 i58 2 dhg 3 dzw 2
   cys 3 dzw 2 dhg 3 dh8 2 dhg 3 dh8 2 dhg 3 dh8 2 dhg 3 dh8 2 dhg 3 dzw 2 cys 3 dzw 4 dhc 5 dh8 4
   dhg 5 dh8 4 dhg 5 dh8 4 bxg 5 f18 4 bxg 5 fjw 4 bes 5 fjw 4 bes 5 fjw 4 bxg 5 f18 4 bxg 5 f18 4
   bxg 5 fjw 4 bes 5 fjw 4 bes 5 fjw 4 bxg 5 f18 4 bxg 5 f18 4 bxg 5 f18 4 bxg 5 fjw 4 bes 5 fjw 4
   bes 5 fjw 4 bxg 5 f18 4 bxg 5 f18 4 bxg 5 fjw 4 bes 5 fjw 4 bes 5 fjw 4 9us 5 | -p00 -m80 3 2 0
   5k0 b 1 0 5k0 ; America/Anguilla | -bog 0 -b40 0 | -3anr1gg 1 | -b40 ; America/Antigua | -bg0 0
   -dw0 0 -b40 0 | -3anr180 1 -k9mqg0 2 | -b40 ; America/Araguaina | -8xc 0 -8c0 0 -5k0 1 |
   -3bm7pdc 1 -99k8mo 2 ddc 1 dpg 2 dbw 1 ciys 2 a2o 1 gyo 2 8yk 1 i2s 2 918 1 i2s 2 6nw 1 83hg 2
   658 1 ow4 2 4d8 1 i5g 2 6nw 1 i5g 2 8vw 1 i5g 2 8yk 1 da5g 2 9uk 1 glg 2 8ak 1 iqs 2 7rw 1 io4 2
   7rw 1 j6s 2 8t8 1 49hg 2 8t8 1 hms 2 9uk 1 h6s 2 at8 1 glg 2 9uk 1 glg 2 avw 1 glg 2 9uk 1 hms 2
   9bw 1 j6s 2 7rw 1 79us 2 8t8 1 | -8c0 ; America/Argentina/Buenos_Aires America/Buenos_Aires |
   -ato 0 -bw0 0 -b40 0 -8c0 1 -8c0 0 -5k0 1 | -31m2xxo 1 -db2bqc 2 -5iv8k0 3 8yk 2 elg 3 a7w 2 i5g
   3 8vw 2 i5g 3 8vw 2 i5g 3 8vw 2 i5g 3 8yk 2 i5g 3 8vw 2 i5g 3 8vw 2 i5g 3 8vw 2 i5g 3 8yk 2 91g
   3 puk 2 91g 3 1cik 2 5k4 3 1sak 2 fus 3 crx8 2 5k4 3 5p8 2 gw4 3 a58 2 gw4 3 a58 2 gw4 3 cik 2
   dhg 3 dzw 2 dhg 3 dh8 2 dhg 4 38d8 5 798 4 ayo4 5 6yk 4 glg 5 ad8 4 h44 5 9uk 4 h44 5 9uk 4 h44
   5 ad8 4 4xus 3 b9c 4 5vpc 5 5p8 4 g2s 5 avw 4 | -8c0 ; America/Argentina/Catamarca
   America/Catamarca America/Argentina/ComodRivadavia | -c6k 0 -bw0 0 -b40 0 -8c0 1 -8c0 0 -5k0 1 |
   -31m2zak 1 -db2adg 2 -5iv8k0 3 8yk 2 elg 3 a7w 2 i5g 3 8vw 2 i5g 3 8vw 2 i5g 3 8vw 2 i5g 3 8yk 2
   i5g 3 8vw 2 i5g 3 8vw 2 i5g 3 8vw 2 i5g 3 8yk 2 91g 3 puk 2 91g 3 1cik 2 5k4 3 1sak 2 fus 3 crx8
   2 5k4 3 5p8 2 gw4 3 a58 2 gw4 3 a58 2 gw4 3 cik 2 dhg 3 dzw 2 dhg 3 dh8 2 dhg 4 38d8 5 798 4
   ayo4 5 6yk 4 glg 5 ad8 4 h44 5 9uk 2 h48 5 9ug 4 h44 5 ad8 4 4xus 3 b9c 4 36w0 2 1es 4 2nek 5
   5p8 4 | -8c0 ; America/Argentina/Cordoba America/Cordoba America/Rosario | -bw0 0 -b40 0 -8c0 1
   -8c0 0 -5k0 1 | -3ex59o0 1 -5iv8k0 2 8yk 1 elg 2 a7w 1 i5g 2 8vw 1 i5g 2 8vw 1 i5g 2 8vw 1 i5g 2
   8yk 1 i5g 2 8vw 1 i5g 2 8vw 1 i5g 2 8vw 1 i5g 2 8yk 1 91g 2 puk 1 91g 2 1cik 1 5k4 2 1sak 1 fus
   2 crx8 1 5k4 2 5p8 1 gw4 2 a58 1 gw4 2 a58 1 gw4 2 cik 1 dhg 2 dzw 1 dhg 2 dh8 1 dhg 3 38d8 4
   798 3 ayo4 4 6yk 3 glg 4 ad8 3 h44 4 9uk 1 h48 4 9ug 3 h44 4 ad8 3 4xus 2 b9c 3 5vpc 4 5p8 3 g2s
   4 avw 3 | -8c0 ; America/Argentina/Jujuy America/Jujuy | -c3c 0 -bw0 0 -b40 0 -8c0 1 -8c0 0 -5k0
   1 | -31m2z7c 1 -db2ago 2 -5iv8k0 3 8yk 2 elg 3 a7w 2 i5g 3 8vw 2 i5g 3 8vw 2 i5g 3 8vw 2 i5g 3
   8yk 2 i5g 3 8vw 2 i5g 3 8vw 2 i5g 3 8vw 2 i5g 3 8yk 2 91g 3 puk 2 91g 3 1cik 2 5k4 3 1sak 2 fus
   3 crx8 2 5k4 3 5p8 2 gw4 3 a58 2 gw4 3 a58 2 gw4 3 cik 2 dhg 3 dzw 2 dhg 3 dh8 2 dhg 4 38d8 5
   798 4 ayo4 5 6yk 4 glg 5 ad8 2 hmw 3 ad8 2 f1g 5 avs 4 h44 5 ad8 4 4xus 3 b9c 4 5vpc 5 5p8 4 |
   -8c0 ; America/Argentina/La_Rioja | -cdo 0 -bw0 0 -b40 0 -8c0 1 -8c0 0 -5k0 1 | -31m2zho 1
   -db2a6c 2 -5iv8k0 3 8yk 2 elg 3 a7w 2 i5g 3 8vw 2 i5g 3 8vw 2 i5g 3 8vw 2 i5g 3 8yk 2 i5g 3 8vw
   2 i5g 3 8vw 2 i5g 3 8vw 2 i5g 3 8yk 2 91g 3 puk 2 91g 3 1cik 2 5k4 3 1sak 2 fus 3 crx8 2 5k4 3
   5p8 2 gw4 3 a58 2 gw4 3 a58 2 gw4 3 cik 2 dhg 3 dzw 2 dhg 3 dh8 2 dhg 4 38d8 5 798 4 ayo4 5 6yk
   4 glg 5 ad8 4 h44 5 9p8 2 4yw 4 cak 5 9uk 4 h44 5 ad8 4 4xus 3 b9c 4 36w0 2 1es 4 2nek 5 5p8 4 |
   -8c0 ; America/Argentina/Mendoza America/Mendoza | -cqs 0 -bw0 0 -b40 0 -8c0 1 -8c0 0 -5k0 1 |
   -31m2zus 1 -db29t8 2 -5iv8k0 3 8yk 2 elg 3 a7w 2 i5g 3 8vw 2 i5g 3 8vw 2 i5g 3 8vw 2 i5g 3 8yk 2
   i5g 3 8vw 2 i5g 3 8vw 2 i5g 3 8vw 2 i5g 3 8yk 2 91g 3 puk 2 91g 3 1cik 2 5k4 3 1sak 2 fus 3 crx8
   2 5k4 3 5p8 2 gw4 3 a58 2 gw4 3 a58 2 gw4 3 cik 2 dhg 3 dzw 2 dhg 3 dh8 2 dhg 4 38d8 5 798 4
   ayo4 5 6yk 4 glg 5 ad8 2 go8 3 a58 2 gw4 3 a7w 2 h44 5 ad4 4 4xus 3 b9c 4 3680 2 9c4 4 2g58 5
   5p8 4 | -8c0 ; America/Argentina/Rio_Gallegos | -ctg 0 -bw0 0 -b40 0 -8c0 1 -8c0 0 -5k0 1 |
   -31m2zxg 1 -db29qk 2 -5iv8k0 3 8yk 2 elg 3 a7w 2 i5g 3 8vw 2 i5g 3 8vw 2 i5g 3 8vw 2 i5g 3 8yk 2
   i5g 3 8vw 2 i5g 3 8vw 2 i5g 3 8vw 2 i5g 3 8yk 2 91g 3 puk 2 91g 3 1cik 2 5k4 3 1sak 2 fus 3 crx8
   2 5k4 3 5p8 2 gw4 3 a58 2 gw4 3 a58 2 gw4 3 cik 2 dhg 3 dzw 2 dhg 3 dh8 2 dhg 4 38d8 5 798 4
   ayo4 5 6yk 4 glg 5 ad8 4 h44 5 9uk 4 h44 5 9uk 4 h44 5 ad8 4 4xus 3 b9c 4 36w0 2 1es 4 2nek 5
   5p8 4 | -8c0 ; America/Argentina/Salta | -c44 0 -bw0 0 -b40 0 -8c0 1 -8c0 0 -5k0 1 | -31m2z84 1
   -db2afw 2 -5iv8k0 3 8yk 2 elg 3 a7w 2 i5g 3 8vw 2 i5g 3 8vw 2 i5g 3 8vw 2 i5g 3 8yk 2 i5g 3 8vw
   2 i5g 3 8vw 2 i5g 3 8vw 2 i5g 3 8yk 2 91g 3 puk 2 91g 3 1cik 2 5k4 3 1sak 2 fus 3 crx8 2 5k4 3
   5p8 2 gw4 3 a58 2 gw4 3 a58 2 gw4 3 cik 2 dhg 3 dzw 2 dhg 3 dh8 2 dhg 4 38d8 5 798 4 ayo4 5 6yk
   4 glg 5 ad8 4 h44 5 9uk 2 h48 5 9ug 4 h44 5 ad8 4 4xus 3 b9c 4 5vpc 5 5p8 4 | -8c0 ;
   America/Argentina/San_Juan | -cos 0 -bw0 0 -b40 0 -8c0 1 -8c0 0 -5k0 1 | -31m2zss 1 -db29v8 2
   -5iv8k0 3 8yk 2 elg 3 a7w 2 i5g 3 8vw 2 i5g 3 8vw 2 i5g 3 8vw 2 i5g 3 8yk 2 i5g 3 8vw 2 i5g 3
   8vw 2 i5g 3 8vw 2 i5g 3 8yk 2 91g 3 puk 2 91g 3 1cik 2 5k4 3 1sak 2 fus 3 crx8 2 5k4 3 5p8 2 gw4
   3 a58 2 gw4 3 a58 2 gw4 3 cik 2 dhg 3 dzw 2 dhg 3 dh8 2 dhg 4 38d8 5 798 4 ayo4 5 6yk 4 glg 5
   ad8 4 h44 5 9p8 2 4yw 4 cak 5 9uk 4 h44 5 ad8 4 4xus 3 b9c 4 36tc 2 42s 4 2kt8 5 5p8 4 | -8c0 ;
   America/Argentina/San_Luis | -cac 0 -bw0 0 -b40 0 -8c0 1 -8c0 0 -5k0 1 | -31m2zec 1 -db2a9o 2
   -5iv8k0 3 8yk 2 elg 3 a7w 2 i5g 3 8vw 2 i5g 3 8vw 2 i5g 3 8vw 2 i5g 3 8yk 2 i5g 3 8vw 2 i5g 3
   8vw 2 i5g 3 8vw 2 i5g 3 8yk 2 91g 3 puk 2 91g 3 1cik 2 5k4 3 1sak 2 fus 3 crx8 2 5k4 3 5p8 2 gw4
   3 a58 2 gw4 3 a58 2 gw4 3 cik 2 dhg 3 dzw 2 dhg 3 dh8 2 dhg 4 38d8 5 798 4 ayo4 5 6yk 4 glg 5
   b3w 2 fxk 3 a58 2 6tg 4 69mk 3 b9c 4 36tc 2 42s 4 2kt8 5 1mk 3 3k4 2 g2s 3 avw 2 g2s 4 | -8c0 ;
   America/Argentina/Tucuman | -c2s 0 -bw0 0 -b40 0 -8c0 1 -8c0 0 -5k0 1 | -31m2z6s 1 -db2ah8 2
   -5iv8k0 3 8yk 2 elg 3 a7w 2 i5g 3 8vw 2 i5g 3 8vw 2 i5g 3 8vw 2 i5g 3 8yk 2 i5g 3 8vw 2 i5g 3
   8vw 2 i5g 3 8vw 2 i5g 3 8yk 2 91g 3 puk 2 91g 3 1cik 2 5k4 3 1sak 2 fus 3 crx8 2 5k4 3 5p8 2 gw4
   3 a58 2 gw4 3 a58 2 gw4 3 cik 2 dhg 3 dzw 2 dhg 3 dh8 2 dhg 4 38d8 5 798 4 ayo4 5 6yk 4 glg 5
   ad8 4 h44 5 9uk 2 h48 5 9ug 4 h44 5 ad8 4 4xus 3 b9c 4 36w0 2 w4 4 2nx8 5 5p8 4 g2s 5 avw 4 |
   -8c0 ; America/Argentina/Ushuaia | -cnc 0 -bw0 0 -b40 0 -8c0 1 -8c0 0 -5k0 1 | -31m2zrc 1
   -db29wo 2 -5iv8k0 3 8yk 2 elg 3 a7w 2 i5g 3 8vw 2 i5g 3 8vw 2 i5g 3 8vw 2 i5g 3 8yk 2 i5g 3 8vw
   2 i5g 3 8vw 2 i5g 3 8vw 2 i5g 3 8yk 2 91g 3 puk 2 91g 3 1cik 2 5k4 3 1sak 2 fus 3 crx8 2 5k4 3
   5p8 2 gw4 3 a58 2 gw4 3 a58 2 gw4 3 cik 2 dhg 3 dzw 2 dhg 3 dh8 2 dhg 4 38d8 5 798 4 ayo4 5 6yk
   4 glg 5 ad8 4 h44 5 9uk 4 h44 5 9uk 4 h44 5 ad8 4 4xus 3 b9c 4 36qo 2 1k4 4 2nek 5 5p8 4 | -8c0
   ; America/Aruba | -czc 0 -ci0 0 -b40 0 | -3amrw3c 1 -rlo7io 2 | -b40 ; America/Asuncion | -aog 0
   -b40 0 -8c0 0 -8c0 1 | -3kw44gg 1 -ldwofk 2 14ik 1 14lg 3 b98 1 fus 3 b6k 1 fus 3 b6k 1 fus 3
   dh8 1 dk4 3 djw 1 dk4 3 dh8 1 dk4 3 dh8 1 dk4 3 dh8 1 dk4 3 djw 1 dk4 3 dh8 1 dk4 3 dh8 1 dk4 3
   dh8 1 dk4 3 djw 1 dk4 3 dh8 1 f44 3 bx8 1 dk4 3 dh8 1 dxg 3 avw 1 g5g 3 d3w 1 dms 3 b18 1 g04 3
   ayk 1 g2s 3 b98 1 g84 3 ad8 1 glg 3 avw 1 g2s 3 bek 1 fk4 3 bek 1 fk4 3 bek 1 g2s 3 dh8 1 aw4 3
   g2k 1 bes 3 fjw 1 eis 3 avw 1 g2s 3 avw 1 g2s 3 avw 1 glg 3 ad8 1 glg 3 ad8 1 glg 3 cyk 1 cys 3
   dzw 1 cys 3 dzw 1 dhg 3 cfw 1 eis 3 cfw 1 eis 3 cfw 1 eis 3 cyk 1 e04 3 cyk 1 e04 3 cyk 1 eis 3
   cfw 1 eis 3 cfw 1 eis 3 cyk 1 e04 3 cyk 1 e04 3 cyk 1 e04 3 cyk 1 eis 3 nw 2 | -8c0 ;
   America/Atikokan America/Coral_Harbour | -gys 0 -go0 0 -dw0 1 -dw0 0 | -31p9xes 1 -c5efx8 2 eik
   1 gh6k 2 3rc4 3 | -dw0 ; America/Bahia | -74s 0 -8c0 0 -5k0 1 | -3bm7nks 1 -99kaf8 2 ddc 1 dpg 2
   dbw 1 ciys 2 a2o 1 gyo 2 8yk 1 i2s 2 918 1 i2s 2 6nw 1 83hg 2 658 1 ow4 2 4d8 1 i5g 2 6nw 1 i5g
   2 8vw 1 i5g 2 8yk 1 da5g 2 9uk 1 glg 2 8ak 1 iqs 2 7rw 1 io4 2 7rw 1 j6s 2 8t8 1 io4 2 8t8 1 i5g
   2 8ak 1 j6s 2 798 1 j6s 2 9bw 1 hms 2 9bw 1 hms 2 8t8 1 hms 2 9uk 1 h6s 2 at8 1 glg 2 9uk 1 glg
   2 avw 1 glg 2 9uk 1 hms 2 9bw 1 j6s 2 7rw 1 6idg 2 9uk 1 | -8c0 ; America/Bahia_Banderas | -jho
   0 -jg0 0 -go0 0 -go0 1 -dw0 1 | 4y9ek 1 4340 2 2kvw 1 cas 3 bek 1 dk4 2 7k7w 1 14jsc 3 f18 1 bxg
   3 f18 1 bxg 3 f18 1 bxg 3 fjw 1 bes 3 fjw 1 e04 3 avw 1 e04 3 f18 1 bxg 3 f18 1 bxg 3 fjw 1 bes
   3 fjw 1 bes 3 fjw 1 bes 3 fjw 1 bxg 3 f18 1 bxg 3 f18 1 bxg 4 fjs 2 bes 4 fjw 2 bes 4 fjw 2 bxg
   4 f18 2 bxg 4 f18 2 bxg 4 f18 2 bxg 4 fjw 2 bes 4 fjw 2 bes 4 fjw 2 bxg 4 f18 2 bxg 4 f18 2 bxg
   4 fjw 2 bes 4 fjw 2 | -go0 ; America/Barbados | -b1h 0 -b40 0 -8c0 1 -9q0 1 | -3ae4q5h 1 -fzq06j
   2 9xg 1 i2k 2 9c4 1 g58 3 bc4 1 om5c 2 8ak 1 eis 2 cfw 1 eis 2 cfw 1 f1g 2 bp8 1 | -b40 ;
   America/Belem | -8z8 0 -8c0 0 -5k0 1 | -3bm7pf8 1 -99k8ks 2 ddc 1 dpg 2 dbw 1 ciys 2 a2o 1 gyo 2
   8yk 1 i2s 2 918 1 i2s 2 6nw 1 83hg 2 658 1 ow4 2 4d8 1 i5g 2 6nw 1 i5g 2 8vw 1 i5g 2 8yk 1 da5g
   2 9uk 1 glg 2 8ak 1 iqs 2 7rw 1 | -8c0 ; America/Belize | -gc0 0 -go0 0 -fa0 1 -dw0 1 | -3apaq40
   1 -3edkc0 2 9by 1 hmq 2 9um 1 h42 2 9um 1 h42 2 9um 1 hmq 2 9by 1 hmq 2 9by 1 hmq 2 9um 1 h42 2
   9um 1 h42 2 9um 1 h42 2 9um 1 hmq 2 9by 1 hmq 2 9by 1 hmq 2 9um 1 h42 2 9um 1 h42 2 9um 1 hmq 2
   9by 1 hmq 2 9by 1 hmq 2 9by 1 hmq 2 9um 1 h42 2 9um 1 h42 2 9um 1 hmq 2 9by 1 hmq 2 9by 1 hmq 2
   9um 1 9uq 3 2luk 1 1cqs 2 9um 1 h42 2 9um 1 h42 2 9um 1 hmq 2 9by 1 hmq 2 9by 1 hmq 2 9um 1 h42
   2 9um 1 h42 2 9um 1 h42 2 9um 1 hmq 2 9by 1 hmq 2 9by 1 hmq 2 9um 1 h42 2 9um 1 h42 2 9um 1 hmq
   2 9by 1 hmq 2 9by 1 hmq 2 9by 1 hmq 2 9um 1 h42 2 9um 1 h42 2 9um 1 hmq 2 9by 1 4dc2 3 4vw 1
   6nk4 3 458 1 | -go0 ; America/Blanc-Sablon | -aks 0 -b40 0 -8c0 1 | -2vyl0cs 1 -hw37f8 2 eik 1
   hi2s 2 2qfw 1 | -b40 ; America/Boa_Vista | -b8g 0 -b40 0 -8c0 1 | -3bm7rog 1 -99k93k 2 ddc 1 dpg
   2 dbw 1 ciys 2 a2o 1 gyo 2 8yk 1 i2s 2 918 1 i2s 2 6nw 1 83hg 2 658 1 ow4 2 4d8 1 i5g 2 6nw 1
   i5g 2 8vw 1 i5g 2 8yk 1 da5g 2 9uk 1 glg 2 8ak 1 iqs 2 7rw 1 8r9g 2 avw 1 glg 2 ik 1 | -b40 ;
   America/Bogota | -dps 0 -dw0 0 -b40 1 | -3c2zjhs 1 -14f1hi8 2 kqk 1 | -dw0 ; America/Boise |
   -lip 0 -m80 0 -jg0 1 -jg0 0 -go0 1 | 45m40 1 pto8 2 fjw 1 bes 2 fjw 1 2nxg 3 e36k 4 2qfw 3 g7us
   4 dh8 3 dhg 4 dh8 3 dhg 4 dh8 3 dhg 4 dh8 3 dhg 4 dzw 3 dhg 4 dh8 3 dhg 4 dh8 3 79g 4 jp8 3 8tg
   4 i58 3 dhg 4 dzw 3 cys 4 dzw 3 dhg 4 dh8 3 dhg 4 dh8 3 dhg 4 dh8 3 dhg 4 dh8 3 dhg 4 dzw 3 cys
   4 dzw 3 dhg 4 dh8 3 dhg 4 dh8 3 dhg 4 dh8 3 bxg 4 f18 3 bxg 4 fjw 3 bes 4 fjw 3 bes 4 fjw 3 bxg
   4 f18 3 bxg 4 f18 3 bxg 4 fjw 3 bes 4 fjw 3 bes 4 fjw 3 bxg 4 f18 3 bxg 4 f18 3 bxg 4 f18 3 bxg
   4 fjw 3 bes 4 fjw 3 bes 4 fjw 3 bxg 4 f18 3 bxg 4 f18 3 bxg 4 fjw 3 bes 4 fjw 3 bes 4 fjw 3 9us
   4 | -jg0 -go0 3 2 0 5k0 b 1 0 5k0 ; America/Cambridge_Bay | 0 0 -jg0 0 -go0 1 -go0 0 -dw0 1 -dw0
   0 | 4wr8g 1 gm6c 2 2qfw 1 jz6s 2 dh8 1 dhg 2 dh8 1 dhg 2 dh8 1 dhg 2 dh8 1 dhg 2 dzw 1 cys 2 dzw
   1 dhg 2 dh8 1 dhg 2 dh8 1 dhg 2 dh8 1 dhg 2 dh8 1 dhg 2 dzw 1 cys 2 dzw 1 dhg 2 dh8 1 dhg 2 dh8
   1 dhg 2 dh8 1 bxg 2 f18 1 bxg 2 fjw 1 bes 2 fjw 1 bes 2 fjw 1 bxg 2 f18 1 bxg 2 f18 1 bxg 2 fjw
   1 bes 2 fjw 1 bes 2 fjw 1 bxg 2 f18 1 bxg 2 f18 1 bxg 2 f18 1 bxg 2 fjw 3 beo 4 fjw 5 ig 3 awg 2
   fjw 1 bxg 2 f18 1 bxg 2 f18 1 bxg 2 fjw 1 bes 2 fjw 1 bes 2 fjw 1 9us 2 | -jg0 -go0 3 2 0 5k0 b
   1 0 5k0 ; America/Campo_Grande | -a44 0 -b40 0 -8c0 1 | -3bm7qk4 1 -99ka7w 2 ddc 1 dpg 2 dbw 1
   ciys 2 a2o 1 gyo 2 8yk 1 i2s 2 918 1 i2s 2 6nw 1 83hg 2 658 1 ow4 2 4d8 1 i5g 2 6nw 1 i5g 2 8vw
   1 i5g 2 8yk 1 da5g 2 9uk 1 glg 2 8ak 1 iqs 2 7rw 1 io4 2 7rw 1 j6s 2 8t8 1 io4 2 8t8 1 i5g 2 8ak
   1 j6s 2 798 1 j6s 2 9bw 1 hms 2 9bw 1 hms 2 8t8 1 hms 2 9uk 1 h6s 2 at8 1 glg 2 9uk 1 glg 2 avw
   1 glg 2 9uk 1 hms 2 9bw 1 j6s 2 7rw 1 i5g 2 8t8 1 jc4 2 858 1 hms 2 9bw 1 j6s 2 8ak 1 h44 2 9bw
   1 i5g 2 8t8 1 i5g 2 9bw 1 hms 2 9bw 1 hms 2 9uk 1 hms 2 8t8 1 i5g 2 8t8 1 i5g 2 9bw 1 hms 2 9bw
   1 hms 2 9bw 1 hms 2 9bw 1 j6s 2 7rw 1 | -b40 ; America/Cancun | -g2g 0 -go0 0 -dw0 0 -dw0 1 -b40
   1 | 4y9eg 1 192w8 2 rp0 1 9yoc 3 f18 1 bxg 3 f18 2 bxc 4 8t8 3 684 1 bxg 3 fjw 1 bes 3 fjw 1 e04
   3 avw 1 e04 3 f18 1 bxg 3 f18 1 bxg 3 fjw 1 bes 3 fjw 1 bes 3 fjw 1 bes 3 fjw 1 bxg 3 f18 1 bxg
   3 f18 1 bxg 3 fjw 1 bes 3 fjw 1 bes 3 fjw 1 bxg 3 f18 1 bxg 3 f18 1 79g 2 | -dw0 ;
   America/Caracas | -ce8 0 -ce4 0 -ci0 0 -b40 0 | -2z3cbi8 1 -bjfjzw 2 -rlo83w 3 w9my 2 6b40 3 |
   -b40 ; America/Cayenne | -9ow 0 -b40 0 -8c0 0 | -3ab5a4w 1 -tcw6r4 2 | -8c0 ; America/Cayman |
   -f2k 0 -e7y 0 -dw0 0 | -2z3ce6k 1 -biv5te 2 | -dw0 ; America/Chicago US/Central | -g8c 0 -go0 0
   -dw0 1 -dw0 0 | 45m3s 1 pto8 2 fjw 1 bes 2 fjw 1 h44 2 ad8 1 aw4 2 g2k 1 dhg 2 avw 1 g2s 2 bek 1
   fk4 2 bek 1 fk4 2 bek 1 fk4 2 bek 1 fk4 2 bek 1 g2s 2 bek 1 fk4 2 bek 1 fk4 2 bek 1 fk4 2 bek 1
   fk4 2 bek 1 g2s 2 avw 1 g2s 2 bek 1 fk4 2 bek 1 bes 3 j6k 1 bxg 2 bek 1 fk4 2 bek 1 g2s 2 avw 1
   g2s 2 bek 1 fk4 2 bek 1 9xg 2 2qfw 1 fk4 2 bek 1 fk4 2 bek 1 fk4 2 bek 1 fk4 2 bek 1 g2s 2 avw 1
   g2s 2 bek 1 fk4 2 bek 1 fk4 2 bek 1 fk4 2 bek 1 fk4 2 dzw 1 dhg 2 dh8 1 dhg 2 dh8 1 dhg 2 dh8 1
   dhg 2 dh8 1 dhg 2 dzw 1 dhg 2 dh8 1 dhg 2 dh8 1 dhg 2 dh8 1 dhg 2 dh8 1 dhg 2 dzw 1 cys 2 dzw 1
   dhg 2 dh8 1 dhg 2 dh8 1 dhg 2 dh8 1 dhg 2 dh8 1 dhg 2 dzw 1 dhg 2 dh8 1 dhg 2 dh8 1 56s 2 lrw 1
   8tg 2 i58 1 dhg 2 dzw 1 cys 2 dzw 1 dhg 2 dh8 1 dhg 2 dh8 1 dhg 2 dh8 1 dhg 2 dh8 1 dhg 2 dzw 1
   cys 2 dzw 1 dhg 2 dh8 1 dhg 2 dh8 1 dhg 2 dh8 1 bxg 2 f18 1 bxg 2 fjw 1 bes 2 fjw 1 bes 2 fjw 1
   bxg 2 f18 1 bxg 2 f18 1 bxg 2 fjw 1 bes 2 fjw 1 bes 2 fjw 1 bxg 2 f18 1 bxg 2 f18 1 bxg 2 f18 1
   bxg 2 fjw 1 bes 2 fjw 1 bes 2 fjw 1 bxg 2 f18 1 bxg 2 f18 1 bxg 2 fjw 1 bes 2 fjw 1 bes 2 fjw 1
   9us 2 | -go0 -dw0 3 2 0 5k0 b 1 0 5k0 ; America/Chihuahua | -jn8 0 -jg0 0 -go0 0 -go0 1 -dw0 1 |
   4y9ek 1 4340 2 2kvw 1 cas 3 bek 1 dk4 2 1c404 4 f18 2 bxg 4 f18 2 bxk 3 f18 1 bxg 3 fjw 1 bes 3
   fjw 1 e04 3 avw 1 e04 3 f18 1 bxg 3 f18 1 bxg 3 fjw 1 bes 3 fjw 1 bes 3 fjw 1 bes 3 fjw 1 bxg 3
   f18 1 bxg 3 f18 1 bxg 3 fjw 1 bes 3 fjw 1 bes 3 fjw 1 bxg 3 f18 1 bxg 3 f18 1 bxg 3 f18 1 bxg 3
   fjw 1 bes 3 fjw 1 bes 3 fjw 1 bxg 3 f18 1 bxg 3 f18 1 bxg 3 fjw 1 bes 3 fjw 2 | -go0 ;
   America/Ciudad_Juarez | -jpw 0 -jg0 0 -go0 0 -go0 1 -dw0 1 | 4y9ek 1 4340 2 2kvw 1 cas 3 bek 1
   dk4 2 1c404 4 f18 2 bxg 4 f18 2 bxk 3 f18 1 bxg 3 fjw 1 bes 3 fjw 1 e04 3 avw 1 e04 3 f18 1 bxg
   3 f18 1 bxg 3 fjw 1 bes 3 fjw 1 bes 3 fjw 1 bes 3 fjw 1 bxg 3 f18 1 bxg 3 f18 1 adg 3 hmk 1 9c4
   3 hmk 1 9c4 3 hmk 1 9c4 3 hmk 1 9c4 3 hmk 1 9c4 3 hmk 1 9us 3 hmk 1 9c4 3 hmk 1 9c4 3 hmk 1 9c4
   3 hmk 1 9c4 3 hmk 1 9us 3 hmk 1 9c4 3 h3w 2 2ag 1 | -jg0 -go0 3 2 0 5k0 b 1 0 5k0 ;
   America/Costa_Rica | -fkd 0 -go0 0 -dw0 1 | -3fah00d 1 -ubtl3n 2 798 1 jpg 2 798 1 7zpg 2 c2k 1
   ew4 2 47w 1 | -go0 ; America/Coyhaique | -dcg 0 -d39 0 -dw0 0 -b40 0 -b40 1 -8c0 1 -8c0 0 |
   -2z3ccgg 1 -ag6l2t 2 -3dlssr 1 -157b79 3 -f4e0r 1 -49hzb9 4 -aye0r 2 bc4 4 fp8 2 bc4 4 fp8 2 bc4
   4 fp8 2 bc4 4 frw 2 bc4 3 7bp8 2 4is 3 32ak 4 fxc 2 3s0 3 g4g0 5 avw 3 hms 5 9bw 3 eis 5 bek 3
   fk4 5 bek 3 g2s 5 avw 3 f1g 5 bx8 3 g2s 5 avw 3 g2s 5 bek 3 fk4 5 bek 3 fk4 5 bek 3 g2s 5 avw 3
   g2s 5 avw 3 g2s 5 bek 3 fk4 5 bek 3 fk4 5 bek 3 fk4 5 bek 3 g2s 5 avw 3 g2s 5 avw 3 g2s 5 dh8 3
   dhg 5 bek 3 fk4 5 bek 3 g2s 5 avw 3 e04 5 cyk 3 g2s 5 bek 3 fk4 5 bek 3 fk4 5 bek 3 fk4 5 bek 3
   g2s 5 avw 3 g2s 5 cfw 3 eis 5 bek 3 eis 5 dzw 3 e04 5 bek 3 g2s 5 avw 3 g2s 5 avw 3 g2s 5 avw 3
   g2s 5 bek 3 fk4 5 bek 3 fk4 5 bek 3 g2s 5 avw 3 g2s 5 cfw 3 eis 5 bek 3 fk4 5 cyk 3 e04 5 fjw 3
   7s4 5 inw 3 9c4 5 hmk 3 9us 5 h3w 3 9us 5 19mk 3 6qs 5 k7w 3 6qs 5 k7w 3 6qs 5 hmk 3 bes 5 fjw 3
   bes 5 fjw 3 bes 5 fjw 3 bxg 5 f18 3 bes 5 g2k 3 bes 5 eak 6 | -8c0 ; America/Creston | -lks 0
   -jg0 0 -m80 0 | -2vylbcs 1 -h39xv8 2 1944 1 | -jg0 ; America/Cuiaba | -adw 0 -b40 0 -8c0 1 |
   -3bm7qtw 1 -99k9y4 2 ddc 1 dpg 2 dbw 1 ciys 2 a2o 1 gyo 2 8yk 1 i2s 2 918 1 i2s 2 6nw 1 83hg 2
   658 1 ow4 2 4d8 1 i5g 2 6nw 1 i5g 2 8vw 1 i5g 2 8yk 1 da5g 2 9uk 1 glg 2 8ak 1 iqs 2 7rw 1 io4 2
   7rw 1 j6s 2 8t8 1 io4 2 8t8 1 i5g 2 8ak 1 j6s 2 798 1 j6s 2 9bw 1 hms 2 9bw 1 hms 2 8t8 1 hms 2
   9uk 1 h6s 2 at8 1 glg 2 9uk 1 glg 2 avw 1 glg 2 9uk 1 hms 2 9bw 1 j6s 2 7rw 1 1aas 2 858 1 hms 2
   9bw 1 j6s 2 8ak 1 h44 2 9bw 1 i5g 2 8t8 1 i5g 2 9bw 1 hms 2 9bw 1 hms 2 9uk 1 hms 2 8t8 1 i5g 2
   8t8 1 i5g 2 9bw 1 hms 2 9bw 1 hms 2 9bw 1 hms 2 9bw 1 j6s 2 7rw 1 | -b40 ; America/Curacao
   America/Kralendijk America/Lower_Princes | -crn 0 -ci0 0 -b40 0 | -3amrvvn 1 -rlo7qd 2 | -b40 ;
   America/Danmarkshavn | -3gg 0 -8c0 0 -5k0 1 0 0 | -3cyifwg 1 -x8nx3k 2 cy8 1 dhc 2 dhc 1 dhc 2
   dhc 1 dhc 2 dhc 1 dhc 2 e00 1 dhc 2 dhc 1 dhc 2 dhc 1 dhc 2 dhc 1 dhc 2 dhc 1 dhc 2 dhc 1 dhc 2
   e00 1 dhc 2 dhc 1 dhc 2 dhc 1 dhc 2 dhc 1 dhc 2 dhc 1 dhc 2 dhc 1 7c8 3 | 0 ; America/Dawson |
   -ptg 0 -p00 0 -m80 1 -jg0 1 -m80 0 -jg0 0 | -34n3flg 1 -97l62k 2 eik 1 fk4 2 buc 1 gqoc 2 2qfw 1
   epek 3 e00 1 6080 4 4vs4 3 dh8 4 dhg 3 dh8 4 dhg 3 dzw 4 cys 3 dzw 4 dhg 3 dh8 4 dhg 3 dh8 4 dhg
   3 dh8 4 bxg 3 f18 4 bxg 3 fjw 4 bes 3 fjw 4 bes 3 fjw 4 bxg 3 f18 4 bxg 3 f18 4 bxg 3 fjw 4 bes
   3 fjw 4 bes 3 fjw 4 bxg 3 f18 4 bxg 3 f18 4 bxg 3 f18 4 bxg 3 fjw 4 bes 3 fjw 4 bes 3 fjw 4 bxg
   3 f18 4 bxg 3 f18 4 bxg 3 fjw 4 bes 3 fjw 4 bes 3 fjw 4 9us 3 hmk 4 9c4 3 hmk 4 9c4 3 hmk 4 9us
   3 hmk 4 9c4 3 hmk 4 9c4 3 hmk 4 9c4 3 hmk 4 9c4 3 hmk 4 9c4 3 hmk 4 9us 3 hmk 4 9c4 3 hmk 4 9c4
   3 hmk 4 9c4 3 hmk 4 9c4 3 hmc 5 | -jg0 ; America/Dawson_Creek | -m9k 0 -m80 0 -jg0 1 -jg0 0 |
   -2vylc1k 1 -hw36ug 2 eik 1 hi2s 2 2qfw 1 16is 2 bek 1 fk4 2 bek 1 fk4 2 bek 1 g2s 2 avw 1 g2s 2
   bek 1 fk4 2 bek 1 fk4 2 bek 1 fk4 2 bek 1 fk4 2 bek 1 g2s 2 bek 1 fk4 2 bek 1 fk4 2 bek 1 fk4 2
   bek 1 fk4 2 bek 1 g2s 2 avw 1 g2s 2 dh8 1 dhg 2 dh8 1 dhg 2 dh8 1 dhg 2 dzw 1 cys 2 dzw 1 dhg 2
   dh8 1 dhg 2 dh8 1 dhg 2 dh8 1 dhg 2 dh8 1 dhg 2 dzw 1 dhg 2 918 3 | -jg0 ; America/Denver
   America/Shiprock Navajo US/Mountain | -jfw 0 -jg0 0 -go0 1 | 45m3w 1 pto8 2 fjw 1 bes 2 fjw 1
   bes 2 g2k 1 aw4 2 458 1 fklg 2 2qfw 1 epes 2 dzw 1 cys 2 dzw 1 dhg 2 dh8 1 dhg 2 dh8 1 dhg 2 dh8
   1 dhg 2 dh8 1 dhg 2 dzw 1 dhg 2 dh8 1 dhg 2 dh8 1 56s 2 lrw 1 8tg 2 i58 1 dhg 2 dzw 1 cys 2 dzw
   1 dhg 2 dh8 1 dhg 2 dh8 1 dhg 2 dh8 1 dhg 2 dh8 1 dhg 2 dzw 1 cys 2 dzw 1 dhg 2 dh8 1 dhg 2 dh8
   1 dhg 2 dh8 1 bxg 2 f18 1 bxg 2 fjw 1 bes 2 fjw 1 bes 2 fjw 1 bxg 2 f18 1 bxg 2 f18 1 bxg 2 fjw
   1 bes 2 fjw 1 bes 2 fjw 1 bxg 2 f18 1 bxg 2 f18 1 bxg 2 f18 1 bxg 2 fjw 1 bes 2 fjw 1 bes 2 fjw
   1 bxg 2 f18 1 bxg 2 f18 1 bxg 2 fjw 1 bes 2 fjw 1 bes 2 fjw 1 9us 2 | -jg0 -go0 3 2 0 5k0 b 1 0
   5k0 ; America/Detroit US/Michigan | -fdn 0 -go0 0 -dw0 0 -b40 1 | -36x4uhn 1 -5eraud 2 k3h8 3
   2qfw 2 1xhg 3 bek 2 -9rlbxo 3 -71s2c 2 dhg 3 dh8 2 3dus 3 dh8 2 56s 3 lrw 2 dhg 3 dh8 2 dhg 3
   dzw 2 cys 3 dzw 2 dhg 3 dh8 2 dhg 3 dh8 2 dhg 3 dh8 2 dhg 3 dh8 2 dhg 3 dzw 2 cys 3 dzw 2 dhg 3
   dh8 2 dhg 3 dh8 2 dhg 3 dh8 2 bxg 3 f18 2 bxg 3 fjw 2 bes 3 fjw 2 bes 3 fjw 2 bxg 3 f18 2 bxg 3
   f18 2 bxg 3 fjw 2 bes 3 fjw 2 bes 3 fjw 2 bxg 3 f18 2 bxg 3 f18 2 bxg 3 f18 2 bxg 3 fjw 2 bes 3
   fjw 2 bes 3 fjw 2 bxg 3 f18 2 bxg 3 f18 2 bxg 3 fjw 2 bes 3 fjw 2 bes 3 fjw 2 9us 3 | -dw0 -b40
   3 2 0 5k0 b 1 0 5k0 ; America/Dominica | -bdc 0 -b40 0 | -3ab5bv0 1 | -b40 ; America/Edmonton
   America/Yellowknife Canada/Mountain | -l0g 0 -jg0 0 -go0 1 | -37sexgg 1 -629ink 2 eik 1 cg4 2
   398 1 oqs 2 dzw 1 cys 2 bek 1 g2s 2 avw 1 g2s 2 bek 1 dstg 2 2qfw 1 16is 2 bek 1 ih9g 2 dh8 1
   dhg 2 dh8 1 dhg 2 dh8 1 dhg 2 dh8 1 dhg 2 dzw 1 cys 2 dzw 1 dhg 2 dh8 1 dhg 2 dh8 1 dhg 2 dh8 1
   dhg 2 dh8 1 dhg 2 dzw 1 cys 2 dzw 1 dhg 2 dh8 1 dhg 2 dh8 1 dhg 2 dh8 1 bxg 2 f18 1 bxg 2 fjw 1
   bes 2 fjw 1 bes 2 fjw 1 bxg 2 f18 1 bxg 2 f18 1 bxg 2 fjw 1 bes 2 fjw 1 bes 2 fjw 1 bxg 2 f18 1
   bxg 2 f18 1 bxg 2 f18 1 bxg 2 fjw 1 bes 2 fjw 1 bes 2 fjw 1 bxg 2 f18 1 bxg 2 f18 1 bxg 2 fjw 1
   bes 2 fjw 1 bes 2 fjw 1 9us 2 | -jg0 -go0 3 2 0 5k0 b 1 0 5k0 ; America/Eirunepe | -cxs 0 -dw0 0
   -b40 1 -b40 0 | -3bm7tds 1 -99ka68 2 ddc 1 dpg 2 dbw 1 ciys 2 a2o 1 gyo 2 8yk 1 i2s 2 918 1 i2s
   2 6nw 1 83hg 2 658 1 ow4 2 4d8 1 i5g 2 6nw 1 i5g 2 8vw 1 i5g 2 8yk 1 da5g 2 9uk 1 glg 2 8ak 1
   iqs 2 7rw 1 4a04 2 9bw 1 as04 3 41jw 1 | -dw0 ; America/El_Salvador | -gio 0 -go0 0 -dw0 1 |
   -3f9r3mo 1 -ymao5c 2 avw 1 g2s 2 avw 1 | -go0 ; America/Ensenada America/Santa_Isabel
   America/Tijuana Mexico/BajaNorte | -lo4 0 -jg0 0 -m80 0 -jg0 1 | 4y9ek 1 1i2o 2 2l1g 1 2kvw 2
   a5g 3 dh8 2 7xus 3 2od8 2 1slg 3 l18 2 yys 3 at8 2 g30 3 bek 2 fk4 3 bek 2 fk0 3 beo 2 fk0 3 beo
   2 fk0 3 beo 2 g2o 3 beo 2 fk0 3 beo 2 fk0 3 beo 2 fk0 3 beo 2 fk0 3 beo 2 g2o 3 aw0 2 g2o 3 dhc
   2 dhc 3 dhc 2 dhc 3 dhc 2 dhc 3 e00 2 cyo 3 e00 2 dhg 3 dh8 2 dhg 3 dh8 2 dhg 3 dh8 2 dhg 3 dh8
   2 dhg 3 dzw 2 dhg 3 dh8 2 dhg 3 dh8 2 56s 3 lrw 2 8tg 3 i58 2 dhg 3 dzw 2 cys 3 dzw 2 dhg 3 dh8
   2 dhg 3 dh8 2 dhg 3 dh8 2 dhg 3 dh8 2 dhg 3 dzw 2 cys 3 dzw 2 dhg 3 dh8 2 dhg 3 dh8 2 dhg 3 dh8
   2 bxg 3 f18 2 bxg 3 fjw 2 bes 3 fjw 2 bes 3 fjw 2 bxg 3 f18 2 bxg 3 f18 2 bxg 3 fjw 2 bes 3 fjw
   2 bes 3 fjw 2 bxg 3 f18 2 bxg 3 f18 2 bxg 3 f18 2 bxg 3 fjw 2 bes 3 fjw 2 bes 3 fjw 2 bxg 3 f18
   2 bxg 3 f18 2 bxg 3 fjw 2 bes 3 fjw 2 bes 3 fjw 2 bes 3 fjw 2 bxg 3 f18 2 bxg 3 f18 2 adg 3 |
   -m80 -jg0 3 2 0 5k0 b 1 0 5k0 ; America/Fort_Nelson | -mpz 0 -m80 0 -jg0 1 -jg0 0 | -2vylchz 1
   -hw36e1 2 eik 1 hi2s 2 2qfw 1 16is 2 bek 1 fk4 2 bek 1 fk4 2 bek 1 g2s 2 avw 1 g2s 2 bek 1 fk4 2
   bek 1 fk4 2 bek 1 fk4 2 bek 1 fk4 2 bek 1 g2s 2 bek 1 fk4 2 bek 1 fk4 2 bek 1 fk4 2 bek 1 fk4 2
   bek 1 g2s 2 avw 1 g2s 2 dh8 1 dhg 2 dh8 1 dhg 2 dh8 1 dhg 2 dzw 1 cys 2 dzw 1 dhg 2 dh8 1 dhg 2
   dh8 1 dhg 2 dh8 1 dhg 2 dh8 1 dhg 2 dzw 1 dhg 2 dh8 1 dhg 2 dh8 1 dhg 2 dh8 1 dhg 2 dh8 1 dhg 2
   dzw 1 cys 2 dzw 1 dhg 2 dh8 1 dhg 2 dh8 1 dhg 2 dh8 1 dhg 2 dh8 1 dhg 2 dzw 1 cys 2 dzw 1 dhg 2
   dh8 1 dhg 2 dh8 1 dhg 2 dh8 1 bxg 2 f18 1 bxg 2 fjw 1 bes 2 fjw 1 bes 2 fjw 1 bxg 2 f18 1 bxg 2
   f18 1 bxg 2 fjw 1 bes 2 fjw 1 bes 2 fjw 1 bxg 2 f18 1 bxg 2 f18 1 bxg 2 f18 1 bxg 2 fjw 1 bes 2
   fjw 1 bes 2 fjw 1 bxg 2 f18 1 bxg 2 f18 1 bxg 2 fjw 1 bes 2 fjw 1 bes 2 fjw 1 9us 2 hmk 1 9c4 2
   hmk 1 9c4 2 hmk 1 9us 2 hmk 1 9c4 2 hmk 1 9c4 2 hmk 1 9c4 2 hmk 1 9c4 2 hmk 1 9c4 3 | -jg0 ;
   America/Fortaleza | -74o 0 -8c0 0 -5k0 1 | -3bm7nko 1 -99kafc 2 ddc 1 dpg 2 dbw 1 ciys 2 a2o 1
   gyo 2 8yk 1 i2s 2 918 1 i2s 2 6nw 1 83hg 2 658 1 ow4 2 4d8 1 i5g 2 6nw 1 i5g 2 8vw 1 i5g 2 8yk 1
   da5g 2 9uk 1 glg 2 8ak 1 iqs 2 7rw 1 io4 2 7rw 1 j6s 2 8t8 1 78tg 2 avw 1 glg 2 118 1 qg4 2 9bw
   1 | -8c0 ; America/Glace_Bay | -b3o 0 -b40 0 -8c0 1 | -35l8njo 1 -89fk8c 2 eik 1 hi2s 2 2qfw 1
   5otg 2 bek 1 dyys 2 dh8 1 dhg 2 dh8 1 dhg 2 dh8 1 dhg 2 dh8 1 dhg 2 dzw 1 cys 2 dzw 1 dhg 2 dh8
   1 dhg 2 dh8 1 dhg 2 dh8 1 dhg 2 dh8 1 dhg 2 dzw 1 cys 2 dzw 1 dhg 2 dh8 1 dhg 2 dh8 1 dhg 2 dh8
   1 bxg 2 f18 1 bxg 2 fjw 1 bes 2 fjw 1 bes 2 fjw 1 bxg 2 f18 1 bxg 2 f18 1 bxg 2 fjw 1 bes 2 fjw
   1 bes 2 fjw 1 bxg 2 f18 1 bxg 2 f18 1 bxg 2 f18 1 bxg 2 fjw 1 bes 2 fjw 1 bes 2 fjw 1 bxg 2 f18
   1 bxg 2 f18 1 bxg 2 fjw 1 bes 2 fjw 1 bes 2 fjw 1 9us 2 | -b40 -8c0 3 2 0 5k0 b 1 0 5k0 ;
   America/Goose_Bay | -b6s 0 -9rg 0 -6zg 1 -9q0 0 -6y0 1 -b40 0 -8c0 1 -5k0 1 | -2vyl0ys 1 -hw35go
   2 eik 1 ccak 3 -kzjyk 4 avw 3 g2s 4 avw 3 g2s 4 avw 3 glg 4 ad8 3 glg 4 avw 3 g2s 4 avw 3 g2s 4
   2jpg 3 glg 4 avw 3 g2s 4 avw 3 g2s 4 avw 3 g2s 4 avw 3 glg 4 avw 3 f1g 4 bek 3 fk4 4 bek 3 fk4 4
   bek 3 fk4 4 bek 3 fk4 4 bek 3 g2s 4 bek 3 fk4 4 bek 3 fk4 4 bek 3 fk4 4 bek 3 fk4 4 dzw 3 dhg 4
   dh8 3 dhg 4 dh8 3 dhg 4 dh8 3 dhg 4 dh8 3 dhg 4 dzw 3 a04 5 2yq 6 dzw 5 dhg 6 dh8 5 dhg 6 dh8 5
   dhg 6 dh8 5 dhg 6 dh8 5 dhg 6 dzw 5 dhg 6 dh8 5 dhg 6 dh8 5 dhg 6 dh8 5 dhg 6 dh8 5 dhg 6 dzw 5
   cys 6 dzw 5 dhg 6 dh8 5 dhg 6 dh8 5 dhg 6 dh8 5 dhg 6 dh8 5 dhg 6 dzw 5 cys 6 dzw 5 dhg 6 dh8 5
   dhg 6 dh8 5 dhg 6 dh8 5 -8a2lo 6 f18 5 bxg 7 fjs 5 bew 6 fjw 5 bes 6 fjw 5 bxg 6 f18 5 bxg 6 f18
   5 bxg 6 fjw 5 bes 6 fjw 5 bes 6 fjw 5 bxg 6 f18 5 bxg 6 f18 5 bxg 6 f18 5 bxg 6 fjw 5 bes 6 fjw
   5 bes 6 fjw 5 bxg 6 f18 5 bxg 6 f18 5 bxg 6 fjw 5 bes 6 fjw 5 bes 6 fjw 5 9us 6 hmk 5 9c4 6 hmk
   5 9c4 6 hmk 5 9us 6 hmk 5 9c4 6 -c8tec 5 | -b40 -8c0 3 2 0 5k0 b 1 0 5k0 ; America/Grand_Turk |
   -d68 0 -e7y 0 -dw0 0 -b40 1 -b40 0 | -2z3cca8 1 -biv7pq 2 -z3brw2 3 dh8 2 dhg 3 dh8 2 dhg 3 dh8
   2 dhg 3 dzw 2 cys 3 dzw 2 dhg 3 dh8 2 dhg 3 dh8 2 dhg 3 dh8 2 bxg 3 f18 2 bxg 3 fjw 2 bes 3 fjw
   2 bes 3 fjw 2 bxg 3 f18 2 bxg 3 f18 2 bxg 3 fjw 2 bes 3 fjw 2 bes 3 fjw 2 bxg 3 f18 2 bxg 3 f18
   2 bxg 3 f18 2 bxg 3 fjw 2 bes 3 fjw 2 bes 3 fjw 2 bxg 3 f18 2 bxg 3 f18 2 bxg 3 fjw 2 bes 3 fjw
   2 bes 3 fjw 2 9us 3 hmk 2 9c4 3 hmk 2 9c4 3 hmk 2 9us 3 hmk 2 9c4 3 hmk 2 9c4 3 hmk 2 9c4 3 hmk
   2 9c4 3 hmk 2 9c4 4 29eo 3 | -dw0 -b40 3 2 0 5k0 b 1 0 5k0 ; America/Grenada | -bfo 0 -b40 0 |
   -3ab5bvo 1 | -b40 ; America/Guadeloupe | -be8 0 -b40 0 | -3a9yqi8 1 | -b40 ; America/Guatemala |
   -grg 0 -go0 0 -dw0 1 | -3e3mfvg 1 -ss0akk 2 6qk 1 6xus 2 96k 1 5mw4 2 cfw 1 b084 2 bek 1 | -go0
   ; America/Guayaquil | -es8 0 -ejc 0 -dw0 0 -b40 1 | -2z3cdw8 1 -le9mf4 2 -wb620o 3 53w 2 | -dw0
   ; America/Guyana | -arr 0 -b40 0 -af0 0 -8c0 0 | -3acqpvr 1 -1va8c9 2 19enz 3 ciqp 1 | -b40 ;
   America/Halifax Canada/Atlantic | -bs0 0 -b40 0 -8c0 1 | -35l8o80 1 -777go0 2 djw 1 15ho 2 eik 1
   15h8 2 8ak 1 iis 2 918 1 hk4 2 9h8 1 i04 2 8yk 1 i04 2 9x8 1 h1g 2 ayk 1 h1g 2 8vw 1 h1g 2 ayk 1
   h1g 2 8t8 1 i5g 2 8fw 1 iis 2 9ek 1 hk4 2 afw 1 g04 2 ayk 1 g04 2 bh8 1 h1g 2 8t8 1 j6s 2 8vw 1
   i5g 2 7rw 1 h1g 2 ayk 1 g04 2 ayk 1 i2s 2 8vw 1 gis 2 ayk 1 g04 2 ayk 1 9v0 2 2qfw 1 fk4 2 bek 1
   fk4 2 bek 1 fk4 2 bek 1 fk4 2 bek 1 171g 2 bek 1 fk4 2 bek 1 fk4 2 bek 1 fk4 2 bek 1 171g 2 bek
   1 fk4 2 bek 1 fk4 2 bek 1 fk4 2 bek 1 1y04 2 dh8 1 dhg 2 dh8 1 dhg 2 dh8 1 dhg 2 dzw 1 cys 2 dzw
   1 dhg 2 dh8 1 dhg 2 dh8 1 dhg 2 dh8 1 dhg 2 dh8 1 dhg 2 dzw 1 dhg 2 dh8 1 dhg 2 dh8 1 dhg 2 dh8
   1 dhg 2 dh8 1 dhg 2 dzw 1 cys 2 dzw 1 dhg 2 dh8 1 dhg 2 dh8 1 dhg 2 dh8 1 dhg 2 dh8 1 dhg 2 dzw
   1 cys 2 dzw 1 dhg 2 dh8 1 dhg 2 dh8 1 dhg 2 dh8 1 bxg 2 f18 1 bxg 2 fjw 1 bes 2 fjw 1 bes 2 fjw
   1 bxg 2 f18 1 bxg 2 f18 1 bxg 2 fjw 1 bes 2 fjw 1 bes 2 fjw 1 bxg 2 f18 1 bxg 2 f18 1 bxg 2 f18
   1 bxg 2 fjw 1 bes 2 fjw 1 bes 2 fjw 1 bxg 2 f18 1 bxg 2 f18 1 bxg 2 fjw 1 bes 2 fjw 1 bes 2 fjw
   1 9us 2 | -b40 -8c0 3 2 0 5k0 b 1 0 5k0 ; America/Havana Cuba | -f94 0 -f9c 0 -dw0 0 -b40 1 |
   -2z3ced4 1 -ijto08 2 -1icfyo 3 918 2 8r1g 3 6qk 2 k84 3 798 2 k84 3 6qk 2 225g 3 6qk 2 k84 3 6qk
   2 e39g 3 8yk 2 hus 3 9bw 2 dxg 3 bh8 2 g2s 3 avw 2 h44 3 dh8 2 dhg 3 dh8 2 dhg 3 dzw 2 dhg 3 bx8
   2 f1g 3 bzw 2 eys 3 c2k 2 ew4 3 dh8 2 dhg 3 dzw 2 cys 3 dzw 2 e04 3 bek 2 bxg 3 fjw 2 bes 3 fjw
   2 fk4 3 bek 2 fk4 3 bek 2 fk4 3 bek 2 fk4 3 bx8 2 f1g 3 bx8 2 bes 3 fjw 2 bes 3 fjw 2 bxg 3 f18
   2 bxg 3 f18 2 cys 3 eik 2 cys 3 e00 2 cyo 3 e00 2 cyo 3 e00 2 cyo 3 e00 2 cyo 3 e00 2 dhc 3 dhc
   2 dhc 3 e00 2 cg0 3 fk0 2 beo 3 g2o 2 beo 3 fk0 2 beo 3 fk0 2 bxc 3 f1c 2 bxc 3 f1c 2 beo 3 1y00
   2 9uo 3 h40 2 adc 3 glc 2 9uo 3 h40 2 adc 3 h40 2 adc 3 hmo 2 adc 3 | -dw0 -b40 3 2 0 0 b 1 0
   2s0 ; America/Hermosillo | -kjs 0 -jg0 0 -go0 0 -go0 1 | 4y9ek 1 4340 2 2kvw 1 cas 3 bek 1 dk4 2
   7k7w 1 14jsc 3 f18 1 bxg 3 f18 1 bxg 3 f18 1 | -jg0 ; America/Indiana/Indianapolis
   US/East-Indiana America/Indianapolis America/Fort_Wayne | -fye 0 -go0 0 -dw0 1 -dw0 0 -b40 1 |
   45m3s 1 pto8 2 fjw 1 bes 2 fjw 1 g9xg 2 798 1 9xg 2 2qfw 1 fk4 2 bek 1 fk4 2 bek 1 fk4 2 bek 1
   fk4 2 bek 1 g2s 2 avw 1 g2s 2 bek 1 fk4 2 bek 1 fk4 2 bek 1 fk4 2 bek 1 fk4 3 1tuk 1 fk4 3 89mk
   4 dh8 3 dhg 4 dh8 3 qmqs 4 fjw 3 9us 4 | -dw0 -b40 3 2 0 5k0 b 1 0 5k0 ; America/Indiana/Knox
   US/Indiana-Starke America/Knox_IN | -g1i 0 -go0 0 -dw0 1 -dw0 0 | 45m3s 1 pto8 2 fjw 1 bes 2 fjw
   1 gr44 2 2qfw 1 16is 2 bek 1 fk4 2 bek 1 fk4 2 bek 1 g2s 2 avw 1 g2s 2 bek 1 fk4 2 bek 1 fk4 2
   bek 1 fk4 2 bek 1 fk4 2 dzw 1 dhg 2 dh8 1 dhg 2 bek 1 fk4 2 bek 1 fk4 2 dh8 1 dhg 2 dzw 1 dhg 2
   dh8 1 dhg 3 14fw 1 2mw4 2 dh8 1 dhg 2 dh8 1 dhg 2 dh8 1 dhg 2 dh8 1 dhg 2 dzw 1 dhg 2 dh8 1 dhg
   2 dh8 1 56s 2 lrw 1 8tg 2 i58 1 dhg 2 dzw 1 cys 2 dzw 1 dhg 2 dh8 1 dhg 2 dh8 1 dhg 2 dh8 1 dhg
   2 dh8 1 dhg 2 dzw 1 cys 2 dzw 1 dhg 2 dh8 1 dhg 2 dh8 1 dhg 2 dh8 1 bxg 2 f18 1 bxg 2 fjw 1 bes
   2 fjw 1 bes 2 fjw 1 bxg 2 f18 3 aug0 2 fk0 1 9us 2 | -go0 -dw0 3 2 0 5k0 b 1 0 5k0 ;
   America/Indiana/Marengo | -fzn 0 -go0 0 -dw0 1 -dw0 0 -b40 1 | 45m3s 1 pto8 2 fjw 1 bes 2 fjw 1
   gr44 2 2qfw 1 46w4 2 bek 1 1xhg 2 bek 1 fk4 2 bek 1 g2s 2 bek 1 fk4 2 bek 1 fk4 2 bek 1 fk4 2
   bek 1 fk4 2 bek 1 g2s 3 607w 4 dh8 3 dhg 4 dh8 3 dhg 4 dzw 3 dhg 4 dh8 3 dhg 4 dh8 3 56s 2 ls0 3
   8tc 4 i58 3 mves 4 fjw 3 9us 4 | -dw0 -b40 3 2 0 5k0 b 1 0 5k0 ; America/Indiana/Petersburg |
   -g5v 0 -go0 0 -dw0 1 -dw0 0 | 45m3s 1 pto8 2 fjw 1 bes 2 fjw 1 gr44 2 2qfw 1 7798 2 aw4 1 g2s 2
   bek 1 fk4 2 bek 1 fk4 2 bek 1 fk4 2 bek 1 fk4 2 bek 1 g2s 2 dh8 1 dhg 2 dh8 1 dhg 2 dh8 1 dhg 2
   dh8 1 dhg 3 14yk 1 dhg 2 dh8 1 dhg 2 dh8 1 dhg 2 dh8 1 dhg 2 dh8 1 dhg 2 dzw 1 dhg 2 dh8 1 dhg 2
   dh8 1 56s 2 lrw 1 8tg 2 i58 1 dhg 2 dzw 1 cys 2 dzw 3 lcyo 2 fk0 1 9us 2 hmk 3 | -dw0 -b40 3 2 0
   5k0 b 1 0 5k0 ; America/Indiana/Tell_City | -g2f 0 -go0 0 -dw0 1 -dw0 0 -b40 1 | 45m3s 1 pto8 2
   fjw 1 bes 2 fjw 1 gr44 2 2qfw 1 7798 2 aw4 1 g2s 2 bek 1 fk4 2 bek 1 fk4 2 bek 1 fk4 2 bek 1 fk4
   2 bek 1 g2s 2 dh8 1 dhg 2 dh8 1 dhg 2 dh8 1 dhg 3 2mvw 1 dhg 2 dh8 1 dhg 4 dh4 3 dhg 4 dh8 3
   qmqs 2 fk0 1 9us 2 | -go0 -dw0 3 2 0 5k0 b 1 0 5k0 ; America/Indiana/Vevay | -fr4 0 -go0 0 -dw0
   1 -dw0 0 -b40 1 | 45m3s 1 pto8 2 fjw 1 bes 2 fjw 1 gr44 2 2qfw 1 6fs4 3 b9zw 4 dh8 3 dhg 4 dh8 3
   dhg 4 dzw 3 dhg 4 dh8 3 p4as 4 fjw 3 9us 4 | -dw0 -b40 3 2 0 5k0 b 1 0 5k0 ;
   America/Indiana/Vincennes | -g7j 0 -go0 0 -dw0 1 -dw0 0 -b40 1 | 45m3s 1 pto8 2 fjw 1 bes 2 fjw
   1 gr44 2 2qfw 1 fk4 2 bek 1 4xus 2 bek 1 fk4 2 bek 1 g2k 2 aw4 1 g2s 2 bek 1 fk4 2 bek 1 fk4 2
   bek 1 fk4 2 bek 1 fk4 2 dzw 1 dhg 2 avw 1 g2s 2 dh8 1 dhg 2 dh8 1 dhg 3 3rbw 4 dh8 3 dhg 4 dh8 3
   qmqs 2 fk0 1 9us 2 hmk 3 | -dw0 -b40 3 2 0 5k0 b 1 0 5k0 ; America/Indiana/Winamac | -g1d 0 -go0
   0 -dw0 1 -dw0 0 -b40 1 | 45m3s 1 pto8 2 fjw 1 bes 2 fjw 1 gr44 2 2qfw 1 fk4 2 bek 1 fk4 2 bek 1
   fk4 2 bek 1 fk4 2 bek 1 g2s 2 avw 1 g2s 2 bek 1 fk4 2 bek 1 fk4 2 bek 1 fk4 2 bek 1 fk4 2 dzw 1
   dhg 2 dh8 1 dhg 2 bek 1 fk4 2 bek 1 fk4 2 bek 1 fk4 2 bek 1 g2s 3 607w 4 dh8 3 dhg 4 dh8 3 qmqs
   2 fk0 1 9us 4 | -dw0 -b40 3 2 0 5k0 b 1 0 5k0 ; America/Inuvik | 0 0 -m80 0 -jg0 1 -go0 1 -jg0 0
   | 5lk4g 1 eix4 2 dh8 1 dhg 2 dh8 1 dhg 2 dh8 1 dhg 2 dh8 1 dhg 2 dzw 1 cys 2 dzw 1 dhg 2 dh8 1
   dhg 3 dh4 4 dhg 3 dh8 4 dhg 3 dh8 4 dhg 3 dzw 4 cys 3 dzw 4 dhg 3 dh8 4 dhg 3 dh8 4 dhg 3 dh8 4
   bxg 3 f18 4 bxg 3 fjw 4 bes 3 fjw 4 bes 3 fjw 4 bxg 3 f18 4 bxg 3 f18 4 bxg 3 fjw 4 bes 3 fjw 4
   bes 3 fjw 4 bxg 3 f18 4 bxg 3 f18 4 bxg 3 f18 4 bxg 3 fjw 4 bes 3 fjw 4 bes 3 fjw 4 bxg 3 f18 4
   bxg 3 f18 4 bxg 3 fjw 4 bes 3 fjw 4 bes 3 fjw 4 9us 3 | -jg0 -go0 3 2 0 5k0 b 1 0 5k0 ;
   America/Iqaluit America/Pangnirtung | 0 0 -b40 1 -dw0 0 -go0 0 -dw0 1 | 5dq74 1 2dnc 2 jz6s 1
   dh8 2 dhg 1 dh8 2 dhg 1 dh8 2 dhg 1 dh8 2 dhg 1 dzw 2 cys 1 dzw 2 dhg 1 dh8 2 dhg 1 dh8 2 dhg 1
   dh8 2 dhg 1 dh8 2 dhg 1 dzw 2 cys 1 dzw 2 dhg 1 dh8 2 dhg 1 dh8 2 dhg 1 dh8 2 bxg 1 f18 2 bxg 1
   fjw 2 bes 1 fjw 2 bes 1 fjw 2 bxg 1 f18 2 bxg 1 f18 2 bxg 1 fjw 2 bes 1 fjw 2 bes 1 fjw 2 bxg 1
   f18 2 bxg 1 f18 2 bxg 1 f18 2 bxg 1 fjw 3 bew 4 fjw 2 beo 1 fjw 2 bxg 1 f18 2 bxg 1 f18 2 bxg 1
   fjw 2 bes 1 fjw 2 bes 1 fjw 2 9us 1 | -dw0 -b40 3 2 0 5k0 b 1 0 5k0 ; America/Jamaica Jamaica |
   -e7y 0 -dw0 0 -b40 1 | -3am7jzy 1 -wbl182 2 lrw 1 8tg 2 i58 1 dhg 2 dzw 1 cys 2 dzw 1 dhg 2 dh8
   1 dhg 2 dh8 1 dhg 2 dh8 1 dhg 2 dh8 1 dhg 2 dzw 1 cys 2 dzw 1 | -dw0 ; America/Juneau | 15rv 0
   -ow5 0 -m80 0 -jg0 1 -m80 1 -p00 0 | -2ni5hw1 1 -h4yu44 2 -ln707v 3 2qfw 2 hps4 3 dh8 2 dhg 3
   dh8 2 dhg 3 dzw 2 dhg 3 dh8 2 dhg 3 dh8 2 56s 3 lrw 2 8tg 3 i58 2 dhg 3 dzw 2 cys 3 dzw 2 dhg 3
   dh8 2 dhg 3 dh8 2 dhg 4 dhc 2 dhc 3 dh8 2 dhg 3 dzw 2 cys 3 dzw 5 dhk 4 dh8 5 dhg 4 dh8 5 dhg 4
   dh8 5 bxg 4 f18 5 bxg 4 fjw 5 bes 4 fjw 5 bes 4 fjw 5 bxg 4 f18 5 bxg 4 f18 5 bxg 4 fjw 5 bes 4
   fjw 5 bes 4 fjw 5 bxg 4 f18 5 bxg 4 f18 5 bxg 4 f18 5 bxg 4 fjw 5 bes 4 fjw 5 bes 4 fjw 5 bxg 4
   f18 5 bxg 4 f18 5 bxg 4 fjw 5 bes 4 fjw 5 bes 4 fjw 5 9us 4 | -p00 -m80 3 2 0 5k0 b 1 0 5k0 ;
   America/Kentucky/Louisville America/Louisville | -fvq 0 -go0 0 -dw0 1 -dw0 0 -b40 1 | 45m3s 1
   pto8 2 fjw 1 bes 2 fjw 1 14ys 2 93w 1 erpg 2 bek 1 9xg 2 2qfw 1 -ast9o 2 -1sw2c 1 2xs4 2 avw 1
   g2s 2 bek 1 fk4 2 bek 1 fk4 2 bek 1 fk4 2 bek 1 fk4 2 bek 1 g2s 2 dh8 1 dhg 2 dh8 1 dhg 2 dh8 1
   dhg 2 dh8 1 dhg 2 dzw 1 dhg 2 67w 3 531c 4 dh8 3 dhg 4 dh8 3 dhg 4 dh8 3 dhg 4 dzw 3 dhg 4 dh8 3
   dhg 4 dh8 3 56s 2 ls0 3 8tc 4 i58 3 dhg 4 dzw 3 cys 4 dzw 3 dhg 4 dh8 3 dhg 4 dh8 3 dhg 4 dh8 3
   dhg 4 dh8 3 dhg 4 dzw 3 cys 4 dzw 3 dhg 4 dh8 3 dhg 4 dh8 3 dhg 4 dh8 3 bxg 4 f18 3 bxg 4 fjw 3
   bes 4 fjw 3 bes 4 fjw 3 bxg 4 f18 3 bxg 4 f18 3 bxg 4 fjw 3 bes 4 fjw 3 bes 4 fjw 3 bxg 4 f18 3
   bxg 4 f18 3 bxg 4 f18 3 bxg 4 fjw 3 bes 4 fjw 3 bes 4 fjw 3 bxg 4 f18 3 bxg 4 f18 3 bxg 4 fjw 3
   bes 4 fjw 3 bes 4 fjw 3 9us 4 | -dw0 -b40 3 2 0 5k0 b 1 0 5k0 ; America/Kentucky/Monticello |
   -fpo 0 -go0 0 -dw0 1 -dw0 0 -b40 1 | 45m3s 1 pto8 2 fjw 1 bes 2 fjw 1 gr44 2 2qfw 1 gytg 2 dh8 1
   dhg 2 dh8 1 dhg 2 dh8 1 dhg 2 dzw 1 dhg 2 dh8 1 dhg 2 dh8 1 56s 2 lrw 1 8tg 2 i58 1 dhg 2 dzw 1
   cys 2 dzw 1 dhg 2 dh8 1 dhg 2 dh8 1 dhg 2 dh8 1 dhg 2 dh8 1 dhg 2 dzw 1 cys 2 dzw 1 dhg 2 dh8 1
   dhg 2 dh8 1 dhg 2 dh8 1 bxg 2 f18 1 bxg 2 fjw 1 bes 2 fjw 1 bes 2 fjw 1 bxg 2 f18 1 bxg 2 f18 1
   bxg 2 fjw 1 bes 2 fjw 1 bes 2 fjw 1 bxg 2 f18 1 bxg 2 f18 1 bxg 2 f18 1 bxg 2 fjw 1 bes 2 fjw 3
   beo 4 fjw 3 bxg 4 f18 3 bxg 4 f18 3 bxg 4 fjw 3 bes 4 fjw 3 bes 4 fjw 3 9us 4 | -dw0 -b40 3 2 0
   5k0 b 1 0 5k0 ; America/La_Paz | -cmc 0 -9uc 1 -b40 0 | -3kwdfqc 1 bp8 2 | -b40 ; America/Lima |
   -e9o 0 -eac 0 -dw0 0 -b40 1 | -2z3cddo 1 -9ov9co 2 -fcxjlo 3 6nw 2 d44 3 dh8 2 dhg 3 dh8 2 yeg4
   3 6nw 2 kdg 3 6nw 2 22is 3 6nw 2 2tk4 3 6nw 2 | -dw0 ; America/Los_Angeles US/Pacific | -lwa 0
   -m80 0 -jg0 1 | 45m40 1 pto8 2 fjw 1 bes 2 fjw 1 gr44 2 2qfw 1 -1a3c5o 2 -f2iic 1 zuo 2 aw0 1
   g2o 2 beo 1 fk0 2 beo 1 fk0 2 beo 1 fk0 2 beo 1 fk0 2 beo 1 g2o 2 beo 1 fk0 2 beo 1 fk0 2 beo 1
   fk0 2 beo 1 fk0 2 beo 1 g2o 2 aw0 1 g2o 2 dhc 1 dhc 2 dhc 1 dhc 2 dhc 1 dhc 2 e00 1 cyo 2 e00 1
   dhg 2 dh8 1 dhg 2 dh8 1 dhg 2 dh8 1 dhg 2 dh8 1 dhg 2 dzw 1 dhg 2 dh8 1 dhg 2 dh8 1 56s 2 lrw 1
   8tg 2 i58 1 dhg 2 dzw 1 cys 2 dzw 1 dhg 2 dh8 1 dhg 2 dh8 1 dhg 2 dh8 1 dhg 2 dh8 1 dhg 2 dzw 1
   cys 2 dzw 1 dhg 2 dh8 1 dhg 2 dh8 1 dhg 2 dh8 1 bxg 2 f18 1 bxg 2 fjw 1 bes 2 fjw 1 bes 2 fjw 1
   bxg 2 f18 1 bxg 2 f18 1 bxg 2 fjw 1 bes 2 fjw 1 bes 2 fjw 1 bxg 2 f18 1 bxg 2 f18 1 bxg 2 f18 1
   bxg 2 fjw 1 bes 2 fjw 1 bes 2 fjw 1 bxg 2 f18 1 bxg 2 f18 1 bxg 2 fjw 1 bes 2 fjw 1 bes 2 fjw 1
   9us 2 | -m80 -jg0 3 2 0 5k0 b 1 0 5k0 ; America/Maceio | -6m4 0 -8c0 0 -5k0 1 | -3bm7n24 1
   -99kaxw 2 ddc 1 dpg 2 dbw 1 ciys 2 a2o 1 gyo 2 8yk 1 i2s 2 918 1 i2s 2 6nw 1 83hg 2 658 1 ow4 2
   4d8 1 i5g 2 6nw 1 i5g 2 8vw 1 i5g 2 8yk 1 da5g 2 9uk 1 glg 2 8ak 1 iqs 2 7rw 1 io4 2 7rw 1 j6s 2
   8t8 1 49hg 2 8t8 1 2qis 2 avw 1 glg 2 118 1 qg4 2 9bw 1 | -8c0 ; America/Managua | -fz8 0 -fzc 0
   -go0 0 -dw0 0 -dw0 1 | -2z3cf38 1 -n7jmo4 2 -ka1i0o 3 1cl8 2 32g4 4 7bw 2 jms 4 7bw 2 8nsk 3 jrg
   2 7c4 3 307w 2 67s4 4 cyk 2 fkc 4 beg 2 | -go0 ; America/Manaus Brazil/West | -b44 0 -b40 0 -8c0
   1 | -3bm7rk4 1 -99k97w 2 ddc 1 dpg 2 dbw 1 ciys 2 a2o 1 gyo 2 8yk 1 i2s 2 918 1 i2s 2 6nw 1 83hg
   2 658 1 ow4 2 4d8 1 i5g 2 6nw 1 i5g 2 8vw 1 i5g 2 8yk 1 da5g 2 9uk 1 glg 2 8ak 1 iqs 2 7rw 1
   4a04 2 9bw 1 | -b40 ; America/Marigot America/Port_of_Spain America/St_Barthelemy | -be4 0 -b40
   0 | -3anr164 1 | -b40 ; America/Martinique | -bb8 0 -b40 0 -8c0 1 | -3a80d38 1 -zz5x4s 2 cyk 1 |
   -b40 ; America/Matamoros | -i20 0 -go0 0 -dw0 1 | 4y9eg 1 1dsiw 2 fjw 1 5l6s 2 f18 1 bxg 2 f18 1
   bxg 2 f18 1 bxg 2 fjw 1 bes 2 fjw 1 e04 2 avw 1 e04 2 f18 1 bxg 2 f18 1 bxg 2 fjw 1 bes 2 fjw 1
   bes 2 fjw 1 bes 2 fjw 1 bxg 2 f18 1 bxg 2 f18 1 adg 2 | -go0 -dw0 3 2 0 5k0 b 1 0 5k0 ;
   America/Mazatlan Mexico/BajaSur | -jpg 0 -jg0 0 -go0 0 -go0 1 | 4y9ek 1 4340 2 2kvw 1 cas 3 bek
   1 dk4 2 7k7w 1 14jsc 3 f18 1 bxg 3 f18 1 bxg 3 f18 1 bxg 3 fjw 1 bes 3 fjw 1 e04 3 avw 1 e04 3
   f18 1 bxg 3 f18 1 bxg 3 fjw 1 bes 3 fjw 1 bes 3 fjw 1 bes 3 fjw 1 bxg 3 f18 1 bxg 3 f18 1 bxg 3
   fjw 1 bes 3 fjw 1 bes 3 fjw 1 bxg 3 f18 1 bxg 3 f18 1 bxg 3 f18 1 bxg 3 fjw 1 bes 3 fjw 1 bes 3
   fjw 1 bxg 3 f18 1 bxg 3 f18 1 bxg 3 fjw 1 bes 3 fjw 1 | -jg0 ; America/Menominee | -g83 0 -go0 0
   -dw0 1 -dw0 0 | -2wutco3 1 -gz53bx 2 fjw 1 bes 2 fjw 1 gr44 2 2qfw 1 fk4 2 bek 1 epes 2 dzw 1
   1ves 3 30d8 2 dhc 1 56s 2 lrw 1 8tg 2 i58 1 dhg 2 dzw 1 cys 2 dzw 1 dhg 2 dh8 1 dhg 2 dh8 1 dhg
   2 dh8 1 dhg 2 dh8 1 dhg 2 dzw 1 cys 2 dzw 1 dhg 2 dh8 1 dhg 2 dh8 1 dhg 2 dh8 1 bxg 2 f18 1 bxg
   2 fjw 1 bes 2 fjw 1 bes 2 fjw 1 bxg 2 f18 1 bxg 2 f18 1 bxg 2 fjw 1 bes 2 fjw 1 bes 2 fjw 1 bxg
   2 f18 1 bxg 2 f18 1 bxg 2 f18 1 bxg 2 fjw 1 bes 2 fjw 1 bes 2 fjw 1 bxg 2 f18 1 bxg 2 f18 1 bxg
   2 fjw 1 bes 2 fjw 1 bes 2 fjw 1 9us 2 | -go0 -dw0 3 2 0 5k0 b 1 0 5k0 ; America/Merida | -glg 0
   -go0 0 -dw0 0 -dw0 1 | 4y9eg 1 192w8 2 n18 1 a3c4 3 f18 1 bxg 3 f18 1 bxg 3 f18 1 bxg 3 fjw 1
   bes 3 fjw 1 e04 3 avw 1 e04 3 f18 1 bxg 3 f18 1 bxg 3 fjw 1 bes 3 fjw 1 bes 3 fjw 1 bes 3 fjw 1
   bxg 3 f18 1 bxg 3 f18 1 bxg 3 fjw 1 bes 3 fjw 1 bes 3 fjw 1 bxg 3 f18 1 bxg 3 f18 1 bxg 3 f18 1
   bxg 3 fjw 1 bes 3 fjw 1 bes 3 fjw 1 bxg 3 f18 1 bxg 3 f18 1 bxg 3 fjw 1 bes 3 fjw 1 | -go0 ;
   America/Metlakatla | 16au 0 -od6 0 -m80 0 -jg0 1 -p00 0 -m80 1 | -2ni5hw1 1 -h4ytl5 2 -ln70qu 3
   2qfw 2 hps4 3 dh8 2 dhg 3 dh8 2 dhg 3 dzw 2 dhg 3 dh8 2 dhg 3 dh8 2 56s 3 lrw 2 8tg 3 i58 2 dhg
   3 dzw 2 cys 3 dzw 2 dhg 3 dh8 2 dhg 3 dh8 2 dhg 3 dh8 2 dhg 3 dh8 2 dhg 3 dzw 2 cys 3 dzw 2 o1xg
   4 9us 5 hmk 4 9c4 5 hmk 4 9c4 5 hmk 2 5pc 4 | -p00 -m80 3 2 0 5k0 b 1 0 5k0 ;
   America/Mexico_City Mexico/General | -id0 0 -jg0 0 -go0 0 -go0 1 -dw0 1 | 4y9ek 1 4340 2 2kvw 1
   cas 3 bek 1 dk4 2 5598 4 ad8 2 13hg 4 8d8 2 219g 4 a58 2 4cis 4 cfw 2 yc5o 4 f18 2 bxg 4 f18 2
   bxg 4 f18 2 bxg 4 fjw 2 bes 4 fjw 2 e04 4 avw 2 e04 4 f18 2 bxg 4 f18 2 bxg 4 fjw 2 bes 4 fjw 2
   bes 4 fjw 2 bes 4 fjw 2 bxg 4 f18 2 bxg 4 f18 2 bxg 4 fjw 2 bes 4 fjw 2 bes 4 fjw 2 bxg 4 f18 2
   bxg 4 f18 2 bxg 4 f18 2 bxg 4 fjw 2 bes 4 fjw 2 bes 4 fjw 2 bxg 4 f18 2 bxg 4 f18 2 bxg 4 fjw 2
   bes 4 fjw 2 | -go0 ; America/Miquelon | -aeg 0 -b40 0 -8c0 0 -5k0 1 | -3aabo6g 1 -zy4wpk 2 57es
   3 f18 2 bxg 3 fjw 2 bes 3 fjw 2 bes 3 fjw 2 bxg 3 f18 2 bxg 3 f18 2 bxg 3 fjw 2 bes 3 fjw 2 bes
   3 fjw 2 bxg 3 f18 2 bxg 3 f18 2 bxg 3 f18 2 bxg 3 fjw 2 bes 3 fjw 2 bes 3 fjw 2 bxg 3 f18 2 bxg
   3 f18 2 bxg 3 fjw 2 bes 3 fjw 2 bes 3 fjw 2 9us 3 | -8c0 -5k0 3 2 0 5k0 b 1 0 5k0 ;
   America/Moncton | -bzw 0 -dw0 0 -b40 0 -8c0 1 | -2vxegfw 1 -9nu9w4 2 bwas 3 eik 2 azmo 3 6qk 2
   k84 3 6qk 2 k84 3 6qk 2 k84 3 6qk 2 k84 3 6qk 2 k84 3 6qk 2 jms 3 8t8 2 hpg 3 998 2 go4 3 at8 2
   a08 3 2qfw 2 fk4 3 bek 2 fk4 3 bek 2 fk4 3 bek 2 fk4 3 bek 2 g2s 3 avw 2 g2s 3 bek 2 fk4 3 bek 2
   fk4 3 bek 2 fk4 3 bek 2 fk4 3 bek 2 g2s 3 bek 2 fk4 3 dh8 2 dhg 3 dh8 2 dhg 3 dh8 2 dhg 3 dzw 2
   dhg 3 dh8 2 dhg 3 dh8 2 dhg 3 dh8 2 dhg 3 dh8 2 dhg 3 dzw 2 cys 3 dzw 2 dhg 3 dh8 2 dhg 3 dh8 2
   dhg 3 dh8 2 dhg 3 dh8 2 dhg 3 dzw 2 dhg 3 dh8 2 14g4 3 dh8 2 dhg 3 dh8 2 dhg 3 dzw 2 cys 3 dzw 2
   dhg 3 dh8 2 dhg 3 dh8 2 dhg 3 dh8 2 dhg 3 dh8 2 dhg 3 dzw 2 cys 3 dzw 2 dhg 3 dh8 2 dhg 3 dh8 2
   dhg 3 dh8 2 bxg 3 f18 2 bxg 3 fjw 2 bes 3 fjw 2 bes 3 fjw 2 bxg 3 f18 2 bxg 3 f18 2 -8a2lo 3 fjw
   2 bes 3 fjw 2 bes 3 fjw 2 bxg 3 f18 2 bxg 3 f18 2 bxg 3 f18 2 bxg 3 fjw 2 bes 3 fjw 2 bes 3 fjw
   2 bxg 3 f18 2 bxg 3 f18 2 bxg 3 fjw 2 bes 3 fjw 2 bes 3 fjw 2 -6uiyc 3 | -b40 -8c0 3 2 0 5k0 b 1
   0 5k0 ; America/Monterrey | -iks 0 -jg0 0 -go0 0 -go0 1 -dw0 1 | 4y9eg 1 4344 2 2kvw 1 cas 3 bek
   1 dk4 2 1639g 4 fjw 2 5l6s 4 f18 2 bxg 4 f18 2 bxg 4 f18 2 bxg 4 fjw 2 bes 4 fjw 2 e04 4 avw 2
   e04 4 f18 2 bxg 4 f18 2 bxg 4 fjw 2 bes 4 fjw 2 bes 4 fjw 2 bes 4 fjw 2 bxg 4 f18 2 bxg 4 f18 2
   bxg 4 fjw 2 bes 4 fjw 2 bes 4 fjw 2 bxg 4 f18 2 bxg 4 f18 2 bxg 4 f18 2 bxg 4 fjw 2 bes 4 fjw 2
   bes 4 fjw 2 bxg 4 f18 2 bxg 4 f18 2 bxg 4 fjw 2 bes 4 fjw 2 | -go0 ; America/Montevideo | -aer 0
   -b40 0 -8c0 1 -9q0 0 -6y0 1 -8c0 0 -5k0 1 -460 1 | -3ex586r 1 -1s74p9 2 djw 3 dk2 2 dha 3 dk2 2
   dha 3 5p1e 2 bem 3 fk2 2 bem 3 fk2 2 bem 3 fk2 2 bem 3 g2q 2 avy 3 g2q 2 avy 3 e02 2 dha 3 fk2 2
   bem 3 96q 2 111a 4 6ny 5 c65e 4 cym 5 4o2 6 3mk 5 3tes 6 cyk 5 205g 4 dxa 5 11s2 6 3p8 5 1eas 6
   67w 5 14g4 7 456 4 cys 5 8aq 6 798 5 1ao4 6 5p8 5 k84 6 6qk 5 l9g 6 5p8 5 45g 6 nuk 5 5tk4 6 5mk
   5 l9g 6 67w 5 hms 6 8t8 5 hms 6 9uk 5 hms 6 9bw 5 h44 6 9uk 5 8oo4 6 e04 5 eis 6 bek 5 f1g 6 bx8
   5 fk4 6 bek 5 fk4 6 bek 5 fk4 6 bx8 5 f1g 6 bx8 5 f1g 6 bx8 5 fk4 6 bek 5 fk4 6 bek 5 fk4 6 bek
   5 | -8c0 ; America/Montreal America/Nipigon America/Thunder_Bay America/Toronto Canada/Eastern |
   -ep8 0 -dw0 0 -b40 1 | -31p9v58 1 -c5efes 2 eik 1 bh6 2 fha 1 e0c 2 avo 1 h4c 2 93w 1 hus 2 9bw
   1 hms 2 9bw 1 h44 2 ad8 1 glg 2 ad8 1 glg 2 ad8 1 glg 2 avw 1 g2s 2 bek 1 fk4 2 bek 1 fk4 2 bek
   1 fk4 2 bek 1 g2s 2 avw 1 g2s 2 bek 1 fk4 2 bek 1 fk4 2 bek 1 fk4 2 bek 1 fk4 2 bek 1 fk4 2 bek
   1 g2s 2 avw 1 g2s 2 42qk 1 fk4 2 bek 1 fk4 2 bek 1 fk4 2 bek 1 fk4 2 g2k 1 bes 2 fjw 1 bes 2 bek
   1 fk4 2 bek 1 fk4 2 bek 1 fk4 2 bek 1 fk4 2 bek 1 g2s 2 bek 1 fk4 2 dh8 1 dhg 2 dh8 1 dhg 2 dh8
   1 dhg 2 dzw 1 dhg 2 dh8 1 dhg 2 dh8 1 dhg 2 dh8 1 dhg 2 dh8 1 dhg 2 dzw 1 cys 2 dzw 1 dhg 2 dh8
   1 dhg 2 dh8 1 dhg 2 dh8 1 dhg 2 dh8 1 dhg 2 dzw 1 dhg 2 dh8 1 dhg 2 dh8 1 dhg 2 dh8 1 dhg 2 dh8
   1 dhg 2 dzw 1 cys 2 dzw 1 dhg 2 dh8 1 dhg 2 dh8 1 dhg 2 dh8 1 dhg 2 dh8 1 dhg 2 dzw 1 cys 2 dzw
   1 dhg 2 dh8 1 dhg 2 dh8 1 dhg 2 dh8 1 bxg 2 f18 1 bxg 2 fjw 1 bes 2 fjw 1 bes 2 fjw 1 bxg 2 f18
   1 bxg 2 f18 1 bxg 2 fjw 1 bes 2 fjw 1 bes 2 fjw 1 bxg 2 f18 1 bxg 2 f18 1 bxg 2 f18 1 bxg 2 fjw
   1 bes 2 fjw 1 bes 2 fjw 1 bxg 2 f18 1 bxg 2 f18 1 bxg 2 fjw 1 bes 2 fjw 1 bes 2 fjw 1 9us 2 |
   -dw0 -b40 3 2 0 5k0 b 1 0 5k0 ; America/Montserrat | -bis 0 -b40 0 | -3ab5c0g 1 | -b40 ;
   America/Nassau | -ebu 0 -dw0 0 -b40 1 | -3anr43u 1 -fqrow6 2 207w 1 2as 2 j6k 1 dx4c 2 dh8 1 dhg
   2 dzw 1 cys 2 dzw 1 dhg 2 dh8 1 dhg 2 dh8 1 dhg 2 dh8 1 dhg 2 dh8 1 dhg 2 dzw 1 dhg 2 dh8 1 dhg
   2 dh8 1 dhg 2 dh8 1 dhg 2 dh8 1 dhg 2 dzw 1 cys 2 dzw 1 dhg 2 dh8 1 dhg 2 dh8 1 dhg 2 dh8 1 dhg
   2 dh8 1 dhg 2 dzw 1 cys 2 dzw 1 dhg 2 dh8 1 dhg 2 dh8 1 dhg 2 dh8 1 bxg 2 f18 1 bxg 2 fjw 1 bes
   2 fjw 1 bes 2 fjw 1 bxg 2 f18 1 bxg 2 f18 1 bxg 2 fjw 1 bes 2 fjw 1 bes 2 fjw 1 bxg 2 f18 1 bxg
   2 f18 1 bxg 2 f18 1 bxg 2 fjw 1 bes 2 fjw 1 bes 2 fjw 1 bxg 2 f18 1 bxg 2 f18 1 bxg 2 fjw 1 bes
   2 fjw 1 bes 2 fjw 1 9us 2 | -dw0 -b40 3 2 0 5k0 b 1 0 5k0 ; America/New_York US/Eastern | -dpe 0
   -dw0 0 -b40 1 | 45m3o 1 pto8 2 fjw 1 bes 2 fjw 1 bes 2 g2k 1 cys 2 bek 1 g2s 2 avw 1 g2s 2 bek 1
   fk4 2 bek 1 fk4 2 bek 1 fk4 2 bek 1 fk4 2 bek 1 g2s 2 bek 1 fk4 2 bek 1 fk4 2 bek 1 fk4 2 bek 1
   fk4 2 bek 1 g2s 2 avw 1 g2s 2 bek 1 fk4 2 bek 1 fk4 2 bek 1 fk4 2 bek 1 fk4 2 bek 1 g2s 2 avw 1
   g2s 2 bek 1 fk4 2 bek 1 9xg 2 2qfw 1 fk4 2 bek 1 fk4 2 bek 1 fk4 2 bek 1 fk4 2 bek 1 g2s 2 avw 1
   g2s 2 bek 1 fk4 2 bek 1 fk4 2 bek 1 fk4 2 bek 1 fk4 2 dzw 1 dhg 2 dh8 1 dhg 2 dh8 1 dhg 2 dh8 1
   dhg 2 dh8 1 dhg 2 dzw 1 dhg 2 dh8 1 dhg 2 dh8 1 dhg 2 dh8 1 dhg 2 dh8 1 dhg 2 dzw 1 cys 2 dzw 1
   dhg 2 dh8 1 dhg 2 dh8 1 dhg 2 dh8 1 dhg 2 dh8 1 dhg 2 dzw 1 dhg 2 dh8 1 dhg 2 dh8 1 56s 2 lrw 1
   8tg 2 i58 1 dhg 2 dzw 1 cys 2 dzw 1 dhg 2 dh8 1 dhg 2 dh8 1 dhg 2 dh8 1 dhg 2 dh8 1 dhg 2 dzw 1
   cys 2 dzw 1 dhg 2 dh8 1 dhg 2 dh8 1 dhg 2 dh8 1 bxg 2 f18 1 bxg 2 fjw 1 bes 2 fjw 1 bes 2 fjw 1
   bxg 2 f18 1 bxg 2 f18 1 bxg 2 fjw 1 bes 2 fjw 1 bes 2 fjw 1 bxg 2 f18 1 bxg 2 f18 1 bxg 2 f18 1
   bxg 2 fjw 1 bes 2 fjw 1 bes 2 fjw 1 bxg 2 f18 1 bxg 2 f18 1 bxg 2 fjw 1 bes 2 fjw 1 bes 2 fjw 1
   9us 2 | -dw0 -b40 3 2 0 5k0 b 1 0 5k0 ; America/Nome | 101a 0 -umq 0 -uk0 0 -rs0 1 -p00 0 -m80 1
   | -2ni5hw1 1 -h4yzup 2 -ln72ta 3 2qfw 2 hps4 3 dh8 2 dhg 3 dh8 2 dhg 3 dzw 2 dhg 3 dh8 2 dhg 3
   dh8 2 56s 3 lrw 2 8tg 3 i58 2 dhg 3 dzw 2 cys 3 dzw 2 dhg 3 dh8 2 dhg 3 dh8 2 dhg 3 dh8 2 dhg 3
   dh8 2 dhg 3 dzw 2 cys 3 dzw 4 dh8 5 dh8 4 dhg 5 dh8 4 dhg 5 dh8 4 bxg 5 f18 4 bxg 5 fjw 4 bes 5
   fjw 4 bes 5 fjw 4 bxg 5 f18 4 bxg 5 f18 4 bxg 5 fjw 4 bes 5 fjw 4 bes 5 fjw 4 bxg 5 f18 4 bxg 5
   f18 4 bxg 5 f18 4 bxg 5 fjw 4 bes 5 fjw 4 bes 5 fjw 4 bxg 5 f18 4 bxg 5 f18 4 bxg 5 fjw 4 bes 5
   fjw 4 bes 5 fjw 4 9us 5 | -p00 -m80 3 2 0 5k0 b 1 0 5k0 ; America/Noronha Brazil/DeNoronha |
   -604 0 -5k0 0 -2s0 1 | -3bm7mg4 1 -99k8rw 2 ddc 1 dpg 2 dbw 1 ciys 2 a2o 1 gyo 2 8yk 1 i2s 2 918
   1 i2s 2 6nw 1 83hg 2 658 1 ow4 2 4d8 1 i5g 2 6nw 1 i5g 2 8vw 1 i5g 2 8yk 1 da5g 2 9uk 1 glg 2
   8ak 1 iqs 2 7rw 1 io4 2 7rw 1 j6s 2 8t8 1 78tg 2 avw 1 glg 2 ik 1 qys 2 9bw 1 | -5k0 ;
   America/North_Dakota/Beulah | -iuj 0 -jg0 0 -go0 1 -go0 0 | 45m3w 1 pto8 2 fjw 1 bes 2 fjw 1
   gr44 2 2qfw 1 g7us 2 dh8 1 dhg 2 dh8 1 dhg 2 dh8 1 dhg 2 dh8 1 dhg 2 dzw 1 dhg 2 dh8 1 dhg 2 dh8
   1 56s 2 lrw 1 8tg 2 i58 1 dhg 2 dzw 1 cys 2 dzw 1 dhg 2 dh8 1 dhg 2 dh8 1 dhg 2 dh8 1 dhg 2 dh8
   1 dhg 2 dzw 1 cys 2 dzw 1 dhg 2 dh8 1 dhg 2 dh8 1 dhg 2 dh8 1 bxg 2 f18 1 bxg 2 fjw 1 bes 2 fjw
   1 bes 2 fjw 1 bxg 2 f18 1 bxg 2 f18 1 bxg 2 fjw 1 bes 2 fjw 1 bes 2 fjw 1 bxg 2 f18 1 bxg 2 f18
   1 bxg 2 f18 1 bxg 2 fjw 1 bes 2 fjw 1 bes 2 fjw 1 bxg 2 f18 1 bxg 2 f18 1 bxg 2 fjw 1 bes 2 fjw
   1 bes 2 fjw 1 9us 2 hmk 1 9c4 2 hmk 1 9c4 2 hmk 1 9us 2 hmk 3 | -go0 -dw0 3 2 0 5k0 b 1 0 5k0 ;
   America/North_Dakota/Center | -irc 0 -jg0 0 -go0 1 -go0 0 -dw0 1 | 45m3w 1 pto8 2 fjw 1 bes 2
   fjw 1 gr44 2 2qfw 1 g7us 2 dh8 1 dhg 2 dh8 1 dhg 2 dh8 1 dhg 2 dh8 1 dhg 2 dzw 1 dhg 2 dh8 1 dhg
   2 dh8 1 56s 2 lrw 1 8tg 2 i58 1 dhg 2 dzw 1 cys 2 dzw 1 dhg 2 dh8 1 dhg 2 dh8 1 dhg 2 dh8 1 dhg
   2 dh8 1 dhg 2 dzw 1 cys 2 dzw 1 dhg 2 dh8 1 dhg 2 dh8 1 dhg 2 dh8 1 bxg 2 f18 1 bxg 2 fjw 1 bes
   2 fjw 1 bes 2 fjw 1 bxg 2 f18 1 bxg 2 f18 3 bxc 4 fjw 3 bes 4 fjw 3 bes 4 fjw 3 bxg 4 f18 3 bxg
   4 f18 3 bxg 4 f18 3 bxg 4 fjw 3 bes 4 fjw 3 bes 4 fjw 3 bxg 4 f18 3 bxg 4 f18 3 bxg 4 fjw 3 bes
   4 fjw 3 bes 4 fjw 3 9us 4 | -go0 -dw0 3 2 0 5k0 b 1 0 5k0 ; America/North_Dakota/New_Salem |
   -is3 0 -jg0 0 -go0 1 -go0 0 -dw0 1 | 45m3w 1 pto8 2 fjw 1 bes 2 fjw 1 gr44 2 2qfw 1 g7us 2 dh8 1
   dhg 2 dh8 1 dhg 2 dh8 1 dhg 2 dh8 1 dhg 2 dzw 1 dhg 2 dh8 1 dhg 2 dh8 1 56s 2 lrw 1 8tg 2 i58 1
   dhg 2 dzw 1 cys 2 dzw 1 dhg 2 dh8 1 dhg 2 dh8 1 dhg 2 dh8 1 dhg 2 dh8 1 dhg 2 dzw 1 cys 2 dzw 1
   dhg 2 dh8 1 dhg 2 dh8 1 dhg 2 dh8 1 bxg 2 f18 1 bxg 2 fjw 1 bes 2 fjw 1 bes 2 fjw 1 bxg 2 f18 1
   bxg 2 f18 1 bxg 2 fjw 1 bes 2 fjw 1 bes 2 fjw 1 bxg 2 f18 1 bxg 2 f18 1 bxg 2 f18 1 bxg 2 fjw 1
   bes 2 fjw 1 bes 2 fjw 1 bxg 2 f18 1 bxg 2 f18 3 bxc 4 fjw 3 bes 4 fjw 3 bes 4 fjw 3 9us 4 | -go0
   -dw0 3 2 0 5k0 b 1 0 5k0 ; America/Nuuk America/Godthab | -9kw 0 -8c0 0 -5k0 1 -5k0 0 -2s0 1 |
   -3cyim0w 1 -x8nqz4 2 cy8 1 dhc 2 dhc 1 dhc 2 dhc 1 dhc 2 dhc 1 dhc 2 e00 1 dhc 2 dhc 1 dhc 2 dhc
   1 dhc 2 dhc 1 dhc 2 dhc 1 dhc 2 dhc 1 dhc 2 e00 1 dhc 2 dhc 1 dhc 2 dhc 1 dhc 2 dhc 1 dhc 2 dhc
   1 dhc 2 dhc 1 e00 2 fk0 1 beo 2 fk0 1 beo 2 fk0 1 beo 2 g2o 1 aw0 2 g2o 1 aw0 2 g2o 1 beo 2 fk0
   1 beo 2 fk0 1 beo 2 g2o 1 aw0 2 g2o 1 aw0 2 g2o 1 aw0 2 g2o 1 beo 2 fk0 1 beo 2 fk0 1 beo 2 g2o
   1 aw0 2 g2o 1 aw0 2 g2o 1 beo 2 fk0 1 beo 2 fk0 1 beo 2 fk0 1 beo 2 g2o 1 aw0 2 g2o 1 aw0 2 g2o
   1 beo 2 fk0 1 beo 2 fk0 1 beo 2 g2o 1 aw0 2 g2o 1 aw0 3 rhc 4 | -5k0 -2s0 3 5 0 -2s0 a 5 0 0 ;
   America/Ojinaga | -jc4 0 -jg0 0 -go0 0 -go0 1 -dw0 1 | 4y9ek 1 4340 2 2kvw 1 cas 3 bek 1 dk4 2
   1c404 4 f18 2 bxg 4 f18 2 bxk 3 f18 1 bxg 3 fjw 1 bes 3 fjw 1 e04 3 avw 1 e04 3 f18 1 bxg 3 f18
   1 bxg 3 fjw 1 bes 3 fjw 1 bes 3 fjw 1 bes 3 fjw 1 bxg 3 f18 1 bxg 3 f18 1 adg 3 hmk 1 9c4 3 hmk
   1 9c4 3 hmk 1 9c4 3 hmk 1 9c4 3 hmk 1 9c4 3 hmk 1 9us 3 hmk 1 9c4 3 hmk 1 9c4 3 hmk 1 9c4 3 hmk
   1 9c4 3 hmk 1 9us 3 hmk 1 9c4 3 h3w 2 9uo 4 | -go0 -dw0 3 2 0 5k0 b 1 0 5k0 ; America/Panama |
   -eq8 0 -eso 0 -dw0 0 | -2z3cdu8 1 -9jvmqg 2 | -dw0 ; America/Paramaribo | -a7s 0 -a84 0 -a7o 0
   -9q0 0 -8c0 0 | -3a1u3zs 1 -cixc0c 2 -5lydbk 3 -kcrm6c 4 | -8c0 ; America/Phoenix US/Arizona |
   -kr6 0 -jg0 0 -go0 1 | 45m3w 1 pto8 2 fjw 1 bes 2 fjw 1 gr44 2 -zjedo 1 6qs 2 djw 1 -bs6lmc 2
   dh8 1 | -jg0 ; America/Port-au-Prince | -de8 0 -ddo 0 -dw0 0 -b40 1 | -2z3cci8 1 -e4gmng 2
   -ylcf6c 3 cyk 2 dhg 3 dh8 2 dhg 3 dh8 2 dhg 3 dh8 2 dhg 3 dh8 2 bxk 3 fk0 2 beo 3 fk0 2 beo 3
   fk0 2 bxc 3 f1c 2 bxc 3 f1c 2 bxc 3 fk0 2 beo 3 fk0 2 beo 3 fk0 2 bxc 3 f1c 2 bxc 3 f1c 2 5l6k 3
   fjw 2 bes 3 fjw 2 4170 3 hmk 2 9c4 3 hmk 2 9c4 3 hmk 2 9c4 3 hmk 2 10tg 3 | -dw0 -b40 3 2 0 5k0
   b 1 0 5k0 ; America/Porto_Acre America/Rio_Branco Brazil/Acre | -ck0 0 -dw0 0 -b40 1 -b40 0 |
   -3bm7t00 1 -99kak0 2 ddc 1 dpg 2 dbw 1 ciys 2 a2o 1 gyo 2 8yk 1 i2s 2 918 1 i2s 2 6nw 1 83hg 2
   658 1 ow4 2 4d8 1 i5g 2 6nw 1 i5g 2 8vw 1 i5g 2 8yk 1 da5g 2 9uk 1 glg 2 8ak 1 iqs 2 7rw 1 fbc4
   3 41jw 1 | -dw0 ; America/Porto_Velho | -bu0 0 -b40 0 -8c0 1 | -3bm7sa0 1 -99k8i0 2 ddc 1 dpg 2
   dbw 1 ciys 2 a2o 1 gyo 2 8yk 1 i2s 2 918 1 i2s 2 6nw 1 83hg 2 658 1 ow4 2 4d8 1 i5g 2 6nw 1 i5g
   2 8vw 1 i5g 2 8yk 1 da5g 2 9uk 1 glg 2 8ak 1 iqs 2 7rw 1 | -b40 ; America/Puerto_Rico | -c8p 0
   -b40 0 -8c0 1 | -33wvjcp 1 -mhp1jb 2 2kas 1 | -b40 ; America/Punta_Arenas | -d4s 0 -d39 0 -dw0 0
   -b40 0 -b40 1 -8c0 1 -8c0 0 | -2z3cc8s 1 -ag6lah 2 -3dlssr 1 -157b79 3 -f4e0r 1 -49hzb9 4 -aye0r
   2 bc4 4 fp8 2 bc4 4 fp8 2 bc4 4 fp8 2 bc4 4 frw 2 bc4 3 7bp8 2 4is 3 32ak 4 fxc 2 3s0 3 g4g0 5
   avw 3 hms 5 9bw 3 eis 5 bek 3 fk4 5 bek 3 g2s 5 avw 3 f1g 5 bx8 3 g2s 5 avw 3 g2s 5 bek 3 fk4 5
   bek 3 fk4 5 bek 3 g2s 5 avw 3 g2s 5 avw 3 g2s 5 bek 3 fk4 5 bek 3 fk4 5 bek 3 fk4 5 bek 3 g2s 5
   avw 3 g2s 5 avw 3 g2s 5 dh8 3 dhg 5 bek 3 fk4 5 bek 3 g2s 5 avw 3 e04 5 cyk 3 g2s 5 bek 3 fk4 5
   bek 3 fk4 5 bek 3 fk4 5 bek 3 g2s 5 avw 3 g2s 5 cfw 3 eis 5 bek 3 eis 5 dzw 3 e04 5 bek 3 g2s 5
   avw 3 g2s 5 avw 3 g2s 5 avw 3 g2s 5 bek 3 fk4 5 bek 3 fk4 5 bek 3 g2s 5 avw 3 g2s 5 cfw 3 eis 5
   bek 3 fk4 5 cyk 3 e04 5 fjw 3 7s4 5 inw 3 9c4 5 hmk 3 9us 5 h3w 3 9us 5 19mk 3 6qs 5 8ak 6 |
   -8c0 ; America/Rainy_River America/Winnipeg Canada/Central | -hzo 0 -go0 0 -dw0 1 | -2xt1t3o 1
   -f0j80c 2 avw 1 16j0 2 eik 1 dxxg 2 9uk 1 3aas 2 2qfw 1 glg 2 bek 1 eis 2 bek 1 fk4 2 bek 1 fk4
   2 bek 1 g5g 2 b98 1 fms 2 bek 1 fk4 2 bek 1 fk4 2 bek 1 fk4 2 bek 1 fk4 2 bek 1 g2s 2 bek 1 fk4
   2 bek 1 fk4 2 bek 1 fk4 2 dh8 1 dhg 2 bek 1 1y04 2 avw 1 1y04 2 e00 1 dhc 2 dhc 1 dhc 2 dhc 1
   dhc 2 dhc 1 dhc 2 dhc 1 dhc 2 e00 1 dhc 2 dhc 1 dhc 2 dhc 1 dhc 2 dhc 1 dhc 2 dhc 1 dhc 2 e00 1
   cyo 2 e00 1 dhc 2 dhc 1 dhc 2 dhc 1 dhc 2 dhc 1 dhc 2 dhc 1 dhc 2 e00 1 cyo 2 e00 1 dhc 2 dhc 1
   dhc 2 dhc 1 dhc 2 dhc 1 bxc 2 f1c 1 bxc 2 fk0 1 beo 2 fk0 1 beo 2 fk0 1 bxc 2 f1c 1 bxc 2 f1c 1
   bxc 2 fk0 1 beo 2 fk0 1 beo 2 fk0 1 bxc 2 f1c 1 bxc 2 f1c 1 bxc 2 f1c 1 bxc 2 fk0 1 beo 2 fk0 1
   beo 2 fk0 1 bxc 2 f1c 1 bxc 2 f1c 1 bxc 2 fk0 1 beo 2 fk0 1 beo 2 fjw 1 9us 2 | -go0 -dw0 3 2 0
   5k0 b 1 0 5k0 ; America/Rankin_Inlet | 0 0 -go0 0 -dw0 1 -dw0 0 | 5okcg 1 biow 2 dh8 1 dhg 2 dh8
   1 dhg 2 dh8 1 dhg 2 dh8 1 dhg 2 dzw 1 cys 2 dzw 1 dhg 2 dh8 1 dhg 2 dh8 1 dhg 2 dh8 1 dhg 2 dh8
   1 dhg 2 dzw 1 cys 2 dzw 1 dhg 2 dh8 1 dhg 2 dh8 1 dhg 2 dh8 1 bxg 2 f18 1 bxg 2 fjw 1 bes 2 fjw
   1 bes 2 fjw 1 bxg 2 f18 1 bxg 2 f18 1 bxg 2 fjw 1 bes 2 fjw 1 bes 2 fjw 1 bxg 2 f18 1 bxg 2 f18
   1 bxg 2 f18 1 bxg 2 fjw 1 bes 2 fjw 3 bes 2 fjw 1 bxg 2 f18 1 bxg 2 f18 1 bxg 2 fjw 1 bes 2 fjw
   1 bes 2 fjw 1 9us 2 | -go0 -dw0 3 2 0 5k0 b 1 0 5k0 ; America/Recife | -6go 0 -8c0 0 -5k0 1 |
   -3bm7mwo 1 -99kb3c 2 ddc 1 dpg 2 dbw 1 ciys 2 a2o 1 gyo 2 8yk 1 i2s 2 918 1 i2s 2 6nw 1 83hg 2
   658 1 ow4 2 4d8 1 i5g 2 6nw 1 i5g 2 8vw 1 i5g 2 8yk 1 da5g 2 9uk 1 glg 2 8ak 1 iqs 2 7rw 1 io4 2
   7rw 1 j6s 2 8t8 1 78tg 2 avw 1 glg 2 ik 1 qys 2 9bw 1 | -8c0 ; America/Regina
   Canada/Saskatchewan | -jdo 0 -jg0 0 -go0 1 -go0 0 | -379myho 1 -6l1hmc 2 eik 1 8nmk 2 bek 1 fk4
   2 bek 1 fk4 2 bek 1 g2s 2 avw 1 g2s 2 bek 1 1vxg 2 dh8 1 dhg 2 cyk 1 e04 2 dh8 1 e04 2 dh8 1 dhg
   2 dh8 1 8wc 2 2qfw 1 eis 2 dh8 1 eis 2 bek 1 fk4 2 bek 1 fk4 2 bek 1 g2s 2 avw 1 g2s 2 bek 1 fk4
   2 bek 1 fk4 2 bek 1 fk4 2 bek 1 fk4 2 bek 1 g2s 2 bek 1 fk4 2 bek 1 16is 2 dh8 1 dhg 3 | -go0 ;
   America/Resolute | 0 0 -go0 0 -dw0 1 -dw0 0 | 5hjog 1 ijcw 2 dh8 1 dhg 2 dh8 1 dhg 2 dh8 1 dhg 2
   dh8 1 dhg 2 dzw 1 cys 2 dzw 1 dhg 2 dh8 1 dhg 2 dh8 1 dhg 2 dh8 1 dhg 2 dh8 1 dhg 2 dzw 1 cys 2
   dzw 1 dhg 2 dh8 1 dhg 2 dh8 1 dhg 2 dh8 1 bxg 2 f18 1 bxg 2 fjw 1 bes 2 fjw 1 bes 2 fjw 1 bxg 2
   f18 1 bxg 2 f18 1 bxg 2 fjw 1 bes 2 fjw 1 bes 2 fjw 1 bxg 2 f18 1 bxg 2 f18 1 bxg 2 f18 1 bxg 2
   fjw 1 bes 2 fjw 3 bes 2 fjw 1 bxg 2 f18 1 bxg 2 f18 1 bxg 2 fjw 1 bes 2 fjw 1 bes 2 fjw 3 9us 2
   | -go0 -dw0 3 2 0 5k0 b 1 0 5k0 ; America/Santarem | -a4o 0 -b40 0 -8c0 1 -8c0 0 | -3bm7qko 1
   -99ka7c 2 ddc 1 dpg 2 dbw 1 ciys 2 a2o 1 gyo 2 8yk 1 i2s 2 918 1 i2s 2 6nw 1 83hg 2 658 1 ow4 2
   4d8 1 i5g 2 6nw 1 i5g 2 8vw 1 i5g 2 8yk 1 da5g 2 9uk 1 glg 2 8ak 1 iqs 2 7rw 1 fbc4 3 | -8c0 ;
   America/Santiago Chile/Continental | -d39 0 -dw0 0 -b40 0 -b40 1 -8c0 1 | -39jixj9 1 -3dlssr 0
   -157b79 2 -f4e0r 0 -49hzb9 3 -aye0r 1 bc4 3 fp8 1 bc4 3 fp8 1 bc4 3 fp8 1 bc4 3 frw 1 bc4 2 7bp8
   1 4is 2 2yyk 4 3bw 3 fxg 1 3s0 2 g4g0 4 avw 2 hms 4 9bw 2 eis 4 bek 2 fk4 4 bek 2 g2s 4 avw 2
   f1g 4 bx8 2 g2s 4 avw 2 g2s 4 bek 2 fk4 4 bek 2 fk4 4 bek 2 g2s 4 avw 2 g2s 4 avw 2 g2s 4 bek 2
   fk4 4 bek 2 fk4 4 bek 2 fk4 4 bek 2 g2s 4 avw 2 g2s 4 avw 2 g2s 4 dh8 2 dhg 4 bek 2 fk4 4 bek 2
   g2s 4 avw 2 e04 4 cyk 2 g2s 4 bek 2 fk4 4 bek 2 fk4 4 bek 2 fk4 4 bek 2 g2s 4 avw 2 g2s 4 cfw 2
   eis 4 bek 2 eis 4 dzw 2 e04 4 bek 2 g2s 4 avw 2 g2s 4 avw 2 g2s 4 avw 2 g2s 4 bek 2 fk4 4 bek 2
   fk4 4 bek 2 g2s 4 avw 2 g2s 4 cfw 2 eis 4 bek 2 fk4 4 cyk 2 e04 4 fjw 2 7s4 4 inw 2 9c4 4 hmk 2
   9us 4 h3w 2 9us 4 19mk 2 6qs 4 k7w 2 6qs 4 k7w 2 6qs 4 hmk 2 bes 4 fjw 2 bes 4 fjw 2 bes 4 fjw 2
   bxg 4 | -b40 -8c0 9 1 6 1uo0 4 1 6 1uo0 ; America/Santo_Domingo | -cy0 0 -cyo 0 -dw0 0 -b40 1
   -ci0 1 -b40 0 | -2z3cc20 1 -mkixco 2 -hiw29c 3 8yk 2 1zxg 4 8qm 2 i82 4 6fy 2 l1e 4 62m 2 kw2 4
   67y 2 kqq 4 6am 2 ko2 5 jjms 2 2lc 5 | -b40 ; America/Sao_Paulo Brazil/East | -8ms 0 -8c0 0 -5k0
   1 | -3bm7p2s 1 -99k8x8 2 ddc 1 dpg 2 dbw 1 ciys 2 a2o 1 gyo 2 8yk 1 i2s 2 918 1 i2s 2 6nw 1 8004
   2 9mk 1 ow4 2 4d8 1 i5g 2 6nw 1 i5g 2 8vw 1 i5g 2 8yk 1 da5g 2 9uk 1 glg 2 8ak 1 iqs 2 7rw 1 io4
   2 7rw 1 j6s 2 8t8 1 io4 2 8t8 1 i5g 2 8ak 1 j6s 2 798 1 j6s 2 9bw 1 hms 2 9bw 1 hms 2 8t8 1 hms
   2 9uk 1 h6s 2 at8 1 glg 2 9uk 1 glg 2 avw 1 glg 2 9uk 1 hms 2 9bw 1 j6s 2 7rw 1 i5g 2 8t8 1 jc4
   2 858 1 hms 2 9bw 1 j6s 2 8ak 1 h44 2 9bw 1 i5g 2 8t8 1 i5g 2 9bw 1 hms 2 9bw 1 hms 2 9uk 1 hms
   2 8t8 1 i5g 2 8t8 1 i5g 2 9bw 1 hms 2 9bw 1 hms 2 9bw 1 hms 2 9bw 1 j6s 2 7rw 1 | -8c0 ;
   America/Scoresbysund | -42g 0 -5k0 0 -2s0 1 0 1 -2s0 0 | -3cyigig 1 -x8ntpk 2 cyo 1 dh4 3 dh8 4
   dhc 3 dhc 4 dhc 3 dhc 4 dhc 3 e00 4 dhc 3 dhc 4 dhc 3 dhc 4 dhc 3 dhc 4 dhc 3 dhc 4 dhc 3 dhc 4
   dhc 3 e00 4 dhc 3 dhc 4 dhc 3 dhc 4 dhc 3 dhc 4 dhc 3 dhc 4 dhc 3 dhc 4 e00 3 fk0 4 beo 3 fk0 4
   beo 3 fk0 4 beo 3 g2o 4 aw0 3 g2o 4 aw0 3 g2o 4 beo 3 fk0 4 beo 3 fk0 4 beo 3 g2o 4 aw0 3 g2o 4
   aw0 3 g2o 4 aw0 3 g2o 4 beo 3 fk0 4 beo 3 fk0 4 beo 3 g2o 4 aw0 3 g2o 4 aw0 3 g2o 4 beo 3 fk0 4
   beo 3 fk0 4 beo 3 fk0 4 beo 3 g2o 4 aw0 3 g2o 4 aw0 3 g2o 4 beo 3 fk0 4 beo 3 fk0 4 beo 3 g2o 4
   aw0 3 g2o 4 aw0 3 g2o 4 beo 2 | -5k0 -2s0 3 5 0 -2s0 a 5 0 0 ; America/Sitka | 15lz 0 -p21 0
   -m80 0 -jg0 1 -p00 0 -m80 1 | -2ni5hw1 1 oofm 2 -ln701z 3 2qfw 2 hps4 3 dh8 2 dhg 3 dh8 2 dhg 3
   dzw 2 dhg 3 dh8 2 dhg 3 dh8 2 56s 3 lrw 2 8tg 3 i58 2 dhg 3 dzw 2 cys 3 dzw 2 dhg 3 dh8 2 dhg 3
   dh8 2 dhg 3 dh8 2 dhg 3 dh8 2 dhg 3 dzw 2 cys 3 dzw 4 dhk 5 dh8 4 dhg 5 dh8 4 dhg 5 dh8 4 bxg 5
   f18 4 bxg 5 fjw 4 bes 5 fjw 4 bes 5 fjw 4 bxg 5 f18 4 bxg 5 f18 4 bxg 5 fjw 4 bes 5 fjw 4 bes 5
   fjw 4 bxg 5 f18 4 bxg 5 f18 4 bxg 5 f18 4 bxg 5 fjw 4 bes 5 fjw 4 bes 5 fjw 4 bxg 5 f18 4 bxg 5
   f18 4 bxg 5 fjw 4 bes 5 fjw 4 bes 5 fjw 4 9us 5 | -p00 -m80 3 2 0 5k0 b 1 0 5k0 ;
   America/St_Johns Canada/Newfoundland | -9rg 0 -6zg 1 -9q0 0 -6y0 1 -460 1 | -3dbl53g 1 bzw 0 fhg
   1 eik 0 e54 1 7bw 0 jk4 1 dh8 0 dhg 1 dh8 0 e04 1 cyk 0 e04 1 cyk 0 e04 1 cyk 0 e04 1 cyk 0 e04
   1 dh8 0 dhg 1 dh8 0 e04 1 cyk 0 e04 1 cyk 0 e04 1 cyk 0 e04 1 cyk 0 e04 1 dh8 0 e04 1 cyk 0 e04
   1 cyk 0 b9k 2 -1wfuk 3 cyk 2 eiw 3 avw 2 g2s 3 avw 2 g2s 3 avw 2 glg 3 ad8 2 glg 3 avw 2 g2s 3
   avw 2 g2s 3 2jpg 2 glg 3 avw 2 g2s 3 avw 2 g2s 3 avw 2 g2s 3 avw 2 glg 3 avw 2 f1g 3 bek 2 fk4 3
   bek 2 fk4 3 bek 2 fk4 3 bek 2 fk4 3 bek 2 g2s 3 bek 2 fk4 3 bek 2 fk4 3 bek 2 fk4 3 bek 2 fk4 3
   dzw 2 dhg 3 dh8 2 dhg 3 dh8 2 dhg 3 dh8 2 dhg 3 dh8 2 dhg 3 dzw 2 cys 3 dzw 2 dhg 3 dh8 2 dhg 3
   dh8 2 dhg 3 dh8 2 dhg 3 dh8 2 dhg 3 dzw 2 dhg 3 dh8 2 dhg 3 dh8 2 dhg 3 dh8 2 dhg 3 dh8 2 dhg 3
   dzw 2 cys 3 dzw 2 dhg 3 dh8 2 dhg 3 dh8 2 dhg 3 dh8 2 dhg 3 dh8 2 dhg 3 dzw 2 cys 3 dzw 2 dhg 3
   dh8 2 dhg 3 dh8 2 dhg 3 dh8 2 -8a2lo 3 f18 2 bxg 4 fjs 2 bew 3 fjw 2 bes 3 fjw 2 bxg 3 f18 2 bxg
   3 f18 2 bxg 3 fjw 2 bes 3 fjw 2 bes 3 fjw 2 bxg 3 f18 2 bxg 3 f18 2 bxg 3 f18 2 bxg 3 fjw 2 bes
   3 fjw 2 bes 3 fjw 2 bxg 3 f18 2 bxg 3 f18 2 bxg 3 fjw 2 bes 3 fjw 2 bes 3 fjw 2 9us 3 hmk 2 9c4
   3 hmk 2 9c4 3 hmk 2 9us 3 hmk 2 9c4 3 -c8tec 2 | -9q0 -6y0 3 2 0 5k0 b 1 0 5k0 ;
   America/St_Kitts | -bm4 0 -b40 0 | -3anr1e4 1 | -b40 ; America/St_Lucia | -bao 0 -b40 0 |
   -3akm2eo 1 | -b40 ; America/St_Thomas America/Virgin | -c0w 0 -b40 0 | -3ab5cgw 1 | -b40 ;
   America/St_Vincent | -bc8 0 -b40 0 | -3akm2g8 1 | -b40 ; America/Swift_Current | -jyw 0 -jg0 0
   -go0 1 -go0 0 | -379mz2w 1 -6l1h14 2 eik 1 hi2s 2 2qfw 1 fk4 2 cfw 1 eis 2 bek 1 fk4 2 bek 1 fk4
   2 bek 1 5pc4 2 dh8 1 14g4 2 dh8 1 dhg 2 bek 1 g2s 2 avw 1 7yqs 3 | -go0 ; America/Tegucigalpa |
   -g5g 0 -go0 0 -dw0 1 | -3fedr9g 1 -yho0ik 2 avw 1 g2s 2 avw 1 d8is 2 6t8 1 | -go0 ;
   America/Thule | -cqk 0 -b40 0 -8c0 1 | -3cyip6k 1 -12yzilg 2 dh8 1 dhg 2 dh8 1 e04 2 fjw 1 bes 2
   fjw 1 bes 2 fjw 1 bxg 2 f18 1 bxg 2 f18 1 bxg 2 f18 1 bxg 2 fjw 1 bes 2 fjw 1 bes 2 fjw 1 bxg 2
   f18 1 bxg 2 f18 1 bxg 2 fjw 1 bes 2 fjw 1 bes 2 fjw 1 9us 2 | -b40 -8c0 3 2 0 5k0 b 1 0 5k0 ;
   America/Tortola | -bys 0 -b40 0 | -3ab5ces 1 | -b40 ; America/Vancouver Canada/Pacific | -mss 0
   -m80 0 -jg0 1 | -2vylcks 1 -hw36b8 2 eik 1 hi2s 2 2qfw 1 fk4 2 bek 1 fk4 2 bek 1 fk4 2 bek 1 fk4
   2 bek 1 g2s 2 avw 1 g2s 2 bek 1 fk4 2 bek 1 fk4 2 bek 1 fk4 2 bek 1 fk4 2 bek 1 g2s 2 bek 1 fk4
   2 bek 1 fk4 2 bek 1 fk4 2 bek 1 fk4 2 bek 1 g2s 2 avw 1 g2s 2 dh8 1 dhg 2 dh8 1 dhg 2 dh8 1 dhg
   2 dzw 1 cys 2 dzw 1 dhg 2 dh8 1 dhg 2 dh8 1 dhg 2 dh8 1 dhg 2 dh8 1 dhg 2 dzw 1 dhg 2 dh8 1 dhg
   2 dh8 1 dhg 2 dh8 1 dhg 2 dh8 1 dhg 2 dzw 1 cys 2 dzw 1 dhg 2 dh8 1 dhg 2 dh8 1 dhg 2 dh8 1 dhg
   2 dh8 1 dhg 2 dzw 1 cys 2 dzw 1 dhg 2 dh8 1 dhg 2 dh8 1 dhg 2 dh8 1 bxg 2 f18 1 bxg 2 fjw 1 bes
   2 fjw 1 bes 2 fjw 1 bxg 2 f18 1 bxg 2 f18 1 bxg 2 fjw 1 bes 2 fjw 1 bes 2 fjw 1 bxg 2 f18 1 bxg
   2 f18 1 bxg 2 f18 1 bxg 2 fjw 1 bes 2 fjw 1 bes 2 fjw 1 bxg 2 f18 1 bxg 2 f18 1 bxg 2 fjw 1 bes
   2 fjw 1 bes 2 fjw 1 9us 2 | -m80 -jg0 3 2 0 5k0 b 1 0 5k0 ; America/Whitehorse Canada/Yukon |
   -p0c 0 -p00 0 -m80 1 -jg0 1 -m80 0 -jg0 0 | -34n3esc 1 -97l6vo 2 eik 1 fk4 2 buc 1 gqoc 2 2qfw 1
   epek 3 e00 1 8tc 4 an6s 3 dh8 4 dhg 3 dh8 4 dhg 3 dzw 4 cys 3 dzw 4 dhg 3 dh8 4 dhg 3 dh8 4 dhg
   3 dh8 4 bxg 3 f18 4 bxg 3 fjw 4 bes 3 fjw 4 bes 3 fjw 4 bxg 3 f18 4 bxg 3 f18 4 bxg 3 fjw 4 bes
   3 fjw 4 bes 3 fjw 4 bxg 3 f18 4 bxg 3 f18 4 bxg 3 f18 4 bxg 3 fjw 4 bes 3 fjw 4 bes 3 fjw 4 bxg
   3 f18 4 bxg 3 f18 4 bxg 3 fjw 4 bes 3 fjw 4 bes 3 fjw 4 9us 3 hmk 4 9c4 3 hmk 4 9c4 3 hmk 4 9us
   3 hmk 4 9c4 3 hmk 4 9c4 3 hmk 4 9c4 3 hmk 4 9c4 3 hmk 4 9c4 3 hmk 4 9us 3 hmk 4 9c4 3 hmk 4 9c4
   3 hmk 4 9c4 3 hmk 4 9c4 3 hmc 5 | -jg0 ; America/Yakutat | 14sh 0 -pvj 0 -p00 0 -m80 1 |
   -2ni5hw1 1 -h4yv3i 2 -ln720h 3 2qfw 2 hps4 3 dh8 2 dhg 3 dh8 2 dhg 3 dzw 2 dhg 3 dh8 2 dhg 3 dh8
   2 56s 3 lrw 2 8tg 3 i58 2 dhg 3 dzw 2 cys 3 dzw 2 dhg 3 dh8 2 dhg 3 dh8 2 dhg 3 dh8 2 dhg 3 dh8
   2 dhg 3 dzw 2 cys 3 dzw 2 dhg 3 dh8 2 dhg 3 dh8 2 dhg 3 dh8 2 bxg 3 f18 2 bxg 3 fjw 2 bes 3 fjw
   2 bes 3 fjw 2 bxg 3 f18 2 bxg 3 f18 2 bxg 3 fjw 2 bes 3 fjw 2 bes 3 fjw 2 bxg 3 f18 2 bxg 3 f18
   2 bxg 3 f18 2 bxg 3 fjw 2 bes 3 fjw 2 bes 3 fjw 2 bxg 3 f18 2 bxg 3 f18 2 bxg 3 fjw 2 bes 3 fjw
   2 bes 3 fjw 2 9us 3 | -p00 -m80 3 2 0 5k0 b 1 0 5k0 ; Antarctica/Casey | 0 0 m80 0 uk0 0 | 5xl0g
   1 unoo 2 a7o 1 18lo 2 8nw 1 3i7w 2 11es 1 fkc 2 bww 1 ewc 2 bjo 1 -asw1o 2 -89wyc 1 -ag5po 2
   -89wyc 1 -ag5po 2 -84lac 1 | m80 ; Antarctica/Davis | 0 0 jg0 0 dw0 0 | 5ol8g 1 5v0k 0 3724 1
   ule4 2 ao4 1 1858 2 8o4 1 | jg0 ; Antarctica/DumontDUrville | 0 0 rs0 0 | 5h1r4 1 3s6w 0 3lvs 1
   | rs0 ; Antarctica/Macquarie | 0 0 rs0 0 uk0 1 | 4hlog 1 cpls 2 cyo 1 1il4 0 ls6g 1 eo1s 2 dhc 1
   fk0 2 9uo 1 h40 2 9uo 1 h40 2 adc 1 h40 2 8tc 1 i5c 2 9c0 1 hmo 2 9c0 1 hmo 2 9c0 1 hmo 2 9uo 1
   hmo 2 9c0 1 hmo 2 9c0 1 hmo 2 9c0 1 hmo 2 9c0 1 hmo 2 9c0 1 hmo 2 beo 1 g2o 2 aw0 1 g2o 2 9c0 1
   hmo 2 9c0 1 hmo 2 9c0 1 h40 2 aw0 1 glc 2 aw0 1 glc 2 adc 1 glc 2 adc 1 glc 2 beo 1 e00 2 cyo 1
   e00 2 cyo 1 e00 2 cyo 1 e00 2 cyo 1 e00 2 dhc 1 e00 2 cyo 1 e00 2 cyo 1 e00 2 cyo 1 e00 2 cyo 1
   beo 2 fk0 1 eio 2 cyo 1 e00 2 cyo 1 e00 2 cyo 1 e00 2 cyo 1 e00 2 dhc 1 dhc 2 cyo 1 eio 2 dhc 1
   dhc 2 dhc 1 dhc 2 14g0 1 | rs0 uk0 a 1 0 5k0 4 1 0 8c0 ; Antarctica/Mawson | 0 0 go0 0 dw0 0 |
   5mecg 1 15ucw 2 | dw0 ; Antarctica/McMurdo Antarctica/South_Pole | 0 0 xc0 0 1040 1 | 5nt8g 1
   e5o8 2 8ao 1 i5c 2 9uo 1 hmo 2 9c0 1 hmo 2 9c0 1 hmo 2 9c0 1 hmo 2 9c0 1 hmo 2 9c0 1 hmo 2 9uo 1
   hmo 2 9c0 1 hmo 2 9c0 1 hmo 2 9c0 1 hmo 2 9c0 1 hmo 2 9c0 1 hmo 2 9uo 1 hmo 2 9c0 1 g2o 2 bxc 1
   f1c 2 bxc 1 f1c 2 bxc 1 f1c 2 cg0 1 eio 2 cg0 1 eio 2 cg0 1 eio 2 cg0 1 f1c 2 bxc 1 f1c 2 bxc 1
   f1c 2 cg0 1 eio 2 cg0 1 eio 2 cg0 1 f1c 2 bxc 1 f1c 2 bxc 1 f1c 2 cg0 1 eio 2 cg0 1 eio 2 cg0 1
   eio 2 cg0 1 eio 2 | xc0 1040 9 5 0 5k0 4 1 0 8c0 ; Antarctica/Palmer | 0 0 -8c0 1 -b40 0 -8c0 0
   -5k0 1 | 5uksg 1 4do 2 gw4 1 a58 2 gw4 1 cik 2 dhg 1 dzw 2 dhg 1 dh8 2 dhg 3 38d8 4 798 3 60g4 2
   c04 1 bek 2 fk4 1 bek 2 g2s 1 avw 2 g2s 1 avw 2 g2s 1 dh8 2 dhg 1 bek 2 fk4 1 bek 2 g2s 1 avw 2
   e04 1 cyk 2 g2s 1 bek 2 fk4 1 bek 2 fk4 1 bek 2 fk4 1 bek 2 g2s 1 avw 2 g2s 1 cfw 2 eis 1 bek 2
   eis 1 dzw 2 e04 1 bek 2 g2s 1 avw 2 g2s 1 avw 2 g2s 1 avw 2 g2s 1 bek 2 fk4 1 bek 2 fk4 1 bek 2
   g2s 1 avw 2 g2s 1 cfw 2 eis 1 bek 2 fk4 1 cyk 2 e04 1 fjw 2 7s4 1 inw 2 9c4 1 hmk 2 9us 1 h3w 2
   9us 1 19mk 2 6qs 1 8ak 3 | -8c0 ; Antarctica/Rothera | 0 0 -8c0 0 | 63j5s 1 | -8c0 ;
   Antarctica/Syowa | 0 0 8c0 0 | 5omf4 1 | 8c0 ; Antarctica/Troll | 0 0 | 6oq4g 0 | 0 5k0 3 5 0
   2s0 a 5 0 8c0 ; Antarctica/Vostok | 0 0 jg0 0 dw0 0 | 5pa74 1 r5gk 0 k8s 1 lw24 2 | dw0 ;
   Arctic/Longyearbyen Atlantic/Jan_Mayen Europe/Oslo | 1zo 0 2s0 0 5k0 1 | -31p9egc 1 -b5svbo 2
   9p4 1 hxmo 2 1o8c 1 aw0 2 e00 1 dhc 2 dhc 1 dhc 2 dhc 1 a3xc 2 e00 1 dhc 2 dhc 1 dhc 2 dhc 1 dhc
   2 dhc 1 dhc 2 dhc 1 dhc 2 e00 1 g2o 2 aw0 1 axk0 2 cyo 1 dhc 2 dhc 1 dhc 2 dhc 1 dhc 2 dhc 1 dhc
   2 e00 1 dhc 2 dhc 1 dhc 2 dhc 1 dhc 2 dhc 1 dhc 2 dhc 1 dhc 2 dhc 1 dhc 2 e00 1 dhc 2 dhc 1 dhc
   2 dhc 1 dhc 2 dhc 1 dhc 2 dhc 1 dhc 2 dhc 1 e00 2 | 2s0 5k0 3 5 0 5k0 a 5 0 8c0 ; Asia/Aden |
   8bu 0 8c0 0 | -3uel846 1 | 8c0 ; Asia/Almaty | e90 0 dw0 0 go0 0 jg0 1 go0 1 | -3h0by70 1
   -37a0d0 2 125uk 3 djw 2 dhg 3 djw 2 dhg 3 djw 2 dk4 3 dhk 2 dhc 3 dhc 2 dhc 3 dhc 2 dhc 3 dhc 2
   dhc 3 dhc 2 dhc 3 dhc 2 dhc 3 e00 2 dhc 4 dhg 1 8ao 2 56k 3 dhc 2 dhc 3 dhc 2 dhc 3 dhc 2 dhc 3
   dhc 2 e00 3 fk0 2 beo 3 fk0 2 beo 3 fk0 2 beo 3 g2o 2 aw0 3 g2o 2 aw0 3 g2o 2 beo 3 fk0 2 beo 3
   fk0 2 beo 3 g2o 2 ej14 1 | dw0 ; Asia/Amman | 6nk 0 5k0 0 8c0 1 8c0 0 | -3khlf4g 1 -m566fk 2 8nw
   1 fpg 2 bbw 1 fpg 2 bbw 1 fs4 2 dmk 1 des 2 bbw 1 fms 2 bbw 1 4vxg 2 djw 1 dpg 2 dh8 1 dhg 2 dh8
   1 dhg 2 dzw 1 fs4 2 b6k 1 f1g 2 bx8 1 edg 2 c2k 1 eis 2 cyk 1 dhg 2 dh8 1 dhg 2 cfw 1 f1g 2 bxc
   1 f1c 2 cg0 1 eio 2 cg0 1 eio 2 cg0 1 l6o 2 6ao 1 dxc 2 dk0 1 deo 2 dk0 1 dhc 2 dhc 1 dhc 2 fk0
   1 beo 2 f1c 1 cg0 2 dhc 1 dhc 2 fk0 1 beo 2 fk0 1 beo 2 g2o 1 aw0 2 g2o 1 aw0 2 g2o 1 beo 2 fk0
   1 beo 2 1anw 1 79g 2 g2o 1 aw0 2 g2o 1 beo 2 fk0 1 beo 2 fk0 1 beo 2 fk0 1 beo 2 fk0 1 beo 2 g2o
   1 aw0 2 g2o 1 8tc 2 i5c 3 | 8c0 ; Asia/Anadyr | wv8 0 xc0 0 1040 0 12w0 1 1040 1 xc0 1 uk0 0 |
   -3h0bfks 1 -379zj8 2 125uk 3 djw 2 dhg 4 dk0 1 dhg 4 djw 1 dk4 4 dhk 1 dhc 4 dhc 1 dhc 4 dhc 1
   dhc 4 dhc 1 dhc 4 dhc 1 dhc 4 dhc 1 dhc 4 e00 1 dhc 5 dhg 6 8ao 1 56k 4 dhc 1 dhc 4 dhc 1 dhc 4
   dhc 1 dhc 4 dhc 1 e00 4 fk0 1 beo 4 fk0 1 beo 4 fk0 1 beo 4 g2o 1 aw0 4 g2o 1 aw0 4 g2o 1 beo 4
   fk0 1 beo 4 fk0 1 beo 4 g2o 1 aw0 4 g2o 1 aw0 4 g2o 1 aw0 4 g2o 1 beo 4 fk0 1 beo 4 fk0 1 beo 5
   g2s 6 aw0 1 | xc0 ; Asia/Aqtau | 9b4 0 b40 0 dw0 0 go0 0 go0 1 dw0 1 | -3h0c34w 1 -379y74 2
   12jek 3 dh8 4 dk0 2 dhg 4 djw 2 dk4 4 dhk 2 dhc 4 dhc 2 dhc 4 dhc 2 dhc 4 dhc 2 dhc 4 dhc 2 dhc
   4 dhc 2 dhc 4 e00 2 dhc 5 dhg 1 8ao 2 56k 4 dhc 2 dhc 4 dhc 2 dhc 4 dhc 1 dhg 5 dhc 1 e00 5 fk0
   1 beo 5 fk0 1 beo 5 fk0 1 beo 5 g2o 1 aw0 5 g2o 1 aw0 5 g2o 1 beo 5 fk0 1 beo 5 fk0 1 beo 5 g2o
   2 | dw0 ; Asia/Aqtobe | al4 0 b40 0 dw0 0 go0 1 go0 0 dw0 1 | -3h0c1uw 1 -379zh4 2 125uk 3 djw 4
   dhc 3 dk0 2 dhg 3 djw 2 dk4 3 dhk 2 dhc 3 dhc 2 dhc 3 dhc 2 dhc 3 dhc 2 dhc 3 dhc 2 dhc 3 dhc 2
   dhc 3 e00 2 dhc 5 dhg 1 8ao 2 56k 3 dhc 2 dhc 3 dhc 2 dhc 3 dhc 2 dhc 3 dhc 2 e00 3 fk0 2 beo 3
   fk0 2 beo 3 fk0 2 beo 3 g2o 2 aw0 3 g2o 2 aw0 3 g2o 2 beo 3 fk0 2 beo 3 fk0 2 beo 3 g2o 2 | dw0
   ; Asia/Ashgabat Asia/Ashkhabad | at8 0 b40 0 dw0 0 go0 1 dw0 1 | -3h0c1ms 1 -379zp8 2 125uk 3
   djw 2 dhg 3 djw 2 dhg 3 djw 2 dk4 3 dhk 2 dhc 3 dhc 2 dhc 3 dhc 2 dhc 3 dhc 2 dhc 3 dhc 2 dhc 3
   dhc 2 dhc 3 e00 2 dhc 4 dhg 1 8ao 2 | dw0 ; Asia/Atyrau | 9m8 0 8c0 0 dw0 0 go0 0 go0 1 dw0 1
   b40 0 | -3h0c2ts 1 -37a1a8 2 12jeg 3 dh8 4 dk0 2 dhg 4 djw 2 dk4 4 dhk 2 dhc 4 dhc 2 dhc 4 dhc 2
   dhc 4 dhc 2 dhc 4 dhc 2 dhc 4 dhc 2 dhc 4 e00 2 dhc 5 dhg 6 8ao 2 56k 4 dhc 2 dhc 4 dhc 2 dhc 4
   dhc 2 dhc 4 dhc 2 e00 4 fk0 2 beo 4 fk0 2 beo 4 fk0 2 beo 5 g2s 6 aw0 5 g2o 6 aw0 5 g2o 6 beo 5
   fk0 6 beo 5 fk0 6 beo 5 g2o 2 | dw0 ; Asia/Baghdad | 884 0 880 0 8c0 0 b40 1 | -2z3bqvw 1
   -em11c4 2 -xkn3w0 3 bbw 2 des 3 dmk 2 dk4 3 djw 2 dhg 3 des 2 dhc 3 dhc 2 dhc 3 dhc 2 dhc 3 dhc
   2 dhc 3 dhc 2 dhc 3 e00 2 dk8 3 dk0 2 dk0 3 dk0 2 dhc 3 dk0 2 dhc 3 dk0 2 dhc 3 dk0 2 dk0 3 dk0
   2 dhc 3 dk0 2 dhc 3 dk0 2 dhc 3 dk0 2 dk0 3 dk0 2 dhc 3 dk0 2 dhc 3 dk0 2 dhc 3 dk0 2 dk0 3 dk0
   2 dhc 3 dk0 2 dhc 3 dk0 2 dhc 3 dk0 2 | 8c0 ; Asia/Bahrain | 9d8 0 9q0 0 b40 0 8c0 0 | -3pzsj2s
   1 -1a1eb8 2 lcta 3 | 8c0 ; Asia/Baku | 98c 0 8c0 0 b40 0 dw0 1 b40 1 | -3h0c37o 1 -h4tkwc 2 i3mk
   3 djw 2 dhg 3 djw 2 dhg 3 djw 2 dk4 3 dhk 2 dhc 3 dhc 2 dhc 3 dhc 2 dhc 3 dhc 2 dhc 3 dhc 2 dhc
   3 dhc 2 dhc 3 e00 2 dhc 4 dhg 1 dhc 4 dhc 2 2mw8 3 fk0 2 bek 3 fk0 2 beo 3 fk0 2 beo 3 g2o 2 aw0
   3 g2o 2 aw0 3 g2o 2 beo 3 fk0 2 beo 3 fk0 2 beo 3 g2o 2 aw0 3 g2o 2 aw0 3 g2o 2 aw0 3 g2o 2 beo
   3 fk0 2 beo 3 fk0 2 beo 3 g2o 2 aw0 3 g2o 2 aw0 3 g2o 2 beo 3 fk0 2 beo 3 fk0 2 beo 3 fk0 2 |
   b40 ; Asia/Bangkok | im4 0 jg0 0 | -3evkv5w 1 | jg0 ; Asia/Barnaul | fic 0 go0 0 jg0 0 m80 1 jg0
   1 | -3eproxo 1 -5hu6uc 2 125uk 3 djw 2 dhg 3 djw 2 dhg 3 djw 2 dk4 3 dhk 2 dhc 3 dhc 2 dhc 3 dhc
   2 dhc 3 dhc 2 dhc 3 dhc 2 dhc 3 dhc 2 dhc 3 e00 2 dhc 4 dhg 1 8ao 2 56k 3 dhc 2 dhc 3 dhc 2 dhc
   3 dhc 2 dhc 3 4no 4 8ts 1 e00 4 fk0 1 beo 4 fk0 1 beo 4 fk0 1 beo 4 g2o 1 aw0 4 g2o 1 aw0 4 g2o
   1 beo 4 fk0 1 beo 4 fk0 1 beo 4 g2o 1 aw0 4 g2o 1 aw0 4 g2o 1 aw0 4 g2o 1 beo 4 fk0 1 beo 4 fk0
   1 beo 4 g2o 1 aw0 2 2oyk 1 12dg 2 | jg0 ; Asia/Beirut | 6ko 0 5k0 0 8c0 1 | -2tvez7c 1 -kzyuco 2
   fmk 1 bus 2 djw 1 cw4 2 eik 1 eis 2 avw 1 p9pg 2 bbw 1 fpg 2 bbw 1 fpg 2 bbw 1 fs4 2 bbw 1 fpg 2
   bbw 1 825g 2 7h8 1 fpg 2 bbw 1 fpg 2 bbw 1 fpg 2 bbw 1 fs4 2 bbw 1 fpg 2 bbw 1 fms 2 bbw 1 4744
   2 cfw 1 elg 2 cfw 1 elg 2 cfw 1 elg 2 cfw 1 gys 2 a58 1 f9g 2 brw 1 elg 2 cfw 1 elg 2 cfw 1 eo4
   2 bjw 1 cys 2 dh8 1 dhg 2 dh8 1 dhg 2 dh8 1 e04 2 dh8 1 dhg 2 dh8 1 dhg 2 dh8 1 dhg 2 | 5k0 8c0
   3 5 0 0 a 5 0 0 ; Asia/Bishkek | dtc 0 dw0 0 go0 0 jg0 1 go0 1 | -3h0bymo 1 -379zxc 2 125uk 3
   djw 2 dhg 3 djw 2 dhg 3 djw 2 dk4 3 dhk 2 dhc 3 dhc 2 dhc 3 dhc 2 dhc 3 dhc 2 dhc 3 dhc 2 dhc 3
   dhc 2 dhc 3 e00 2 dhc 4 bc0 1 gnw 4 cfw 1 eis 4 cfw 1 eis 4 cfw 1 eis 4 cfw 1 eis 4 cyk 1 dhq 4
   fjw 1 bes 4 fjw 1 bes 4 g2k 1 aw4 4 g2k 1 aw4 4 g2k 1 bes 4 fjw 1 bes 4 fjw 1 bes 4 g2k 1 aw4 4
   a7m 2 | go0 ; Asia/Brunei | la4 0 ku0 0 m80 0 | -3hyoshw 1 -3khxs4 2 | m80 ; Asia/Chita | l0g 0
   m80 0 p00 0 rs0 1 p00 1 rs0 0 | -3eq0srk 1 -5hkxgg 2 125uk 3 djw 2 dhg 3 djw 2 dhg 3 djw 2 dk4 3
   dhk 2 dhc 3 dhc 2 dhc 3 dhc 2 dhc 3 dhc 2 dhc 3 dhc 2 dhc 3 dhc 2 dhc 3 e00 2 dhc 4 dhg 1 8ao 2
   56k 3 dhc 2 dhc 3 dhc 2 dhc 3 dhc 2 dhc 3 dhc 2 e00 3 fk0 2 beo 3 fk0 2 beo 3 fk0 2 beo 3 g2o 2
   aw0 3 g2o 2 aw0 3 g2o 2 beo 3 fk0 2 beo 3 fk0 2 beo 3 g2o 2 aw0 3 g2o 2 aw0 3 g2o 2 aw0 3 g2o 2
   beo 3 fk0 2 beo 3 fk0 2 beo 3 g2o 2 aw0 5 2oyk 1 12dk 2 | p00 ; Asia/Choibalsan Asia/Ulaanbaatar
   Asia/Ulan_Bator | jsk 0 jg0 0 m80 0 p00 1 | -3780gng 1 -11sncck 2 3xx8 3 djw 2 dk4 3 dh8 2 dhg 3
   dh8 2 dhg 3 dh8 2 dhg 3 dh8 2 dhg 3 dh8 2 dhg 3 dh8 2 dhg 3 dzw 2 dhg 3 dh8 2 dhg 3 dh8 2 dhg 3
   dh8 2 dhg 3 dh8 2 dhg 3 dh8 2 e04 3 dh8 2 dhg 3 dh8 2 dhg 3 dh8 2 1xxo 3 bek 2 dhg 3 dh8 2 dhg 3
   dh8 2 dhg 3 dh8 2 dhg 3 dh8 2 dhg 3 dzw 2 6dpg 3 dh0 2 dho 3 dh0 2 | m80 ; Asia/Chongqing
   Asia/Harbin Asia/Shanghai PRC Asia/Chungking | mhj 0 m80 0 p00 1 | -34ty8mh 1 -9jeyxj 2 cnw 1
   fj6s 2 9x8 1 bc4 2 h6k 1 6o4 2 2p18 1 iw4 2 aak 1 eis 2 et8 1 dhg 2 bbw 1 fpg 2 1zw 1 rr9o 2 9uk
   1 fk4 2 bek 1 g2s 2 avw 1 g2s 2 bek 1 fk4 2 bek 1 fk4 2 bek 1 | m80 ; Asia/Colombo | esc 0 esk 0
   fa0 0 go0 1 i20 1 i20 0 go0 0 | -2tveqzo 1 -dkh6ns 2 -isle6k 3 hpa 4 2ciu 2 1216k 5 bem 6 745e 2
   | fa0 ; Asia/Damascus | 6q0 0 5k0 0 8c0 1 8c0 0 | -3eqwoe0 1 -5k6q0 2 cfw 1 eis 2 cfw 1 eis 2
   cfw 1 eis 2 cyk 1 sz9g 2 bh8 1 fpg 2 b98 1 fus 2 bbw 1 fpg 2 b98 1 f9g 2 buk 1 fpg 2 bbw 1 fs4 2
   bbw 1 fpg 2 bbw 1 fpg 2 bbw 1 fpg 2 bbw 1 fs4 2 bbw 1 fpg 2 bbw 1 fpg 2 bbw 1 fpg 2 bbw 1 fs4 2
   bbw 1 fpg 2 93w 1 hxg 2 93w 1 3gis 2 cyk 1 e5g 2 cyk 1 119g 2 hek 1 alg 2 i2k 1 a2s 2 h18 1 b6s
   2 dmk 1 dhg 2 dh8 1 djw 2 djw 1 e2s 2 d18 1 d1g 2 djw 1 dxg 2 djw 1 dhg 2 djw 1 dk4 2 djw 1 des
   2 dmk 1 dc4 2 dp8 1 dhg 2 djw 1 dk4 2 djw 1 dhg 2 djw 1 dhg 2 djw 1 dhg 2 djw 1 dk4 2 djw 1 dhg
   2 djw 1 dhg 2 cvw 1 e04 2 g2k 1 bes 2 fmk 1 atg 2 g2k 1 bes 2 fjw 1 bes 2 fjw 1 bes 2 fjw 1 bes
   2 fjw 1 bes 2 g2k 1 aw4 2 g2k 1 aw4 2 g2k 1 bes 2 fjw 1 bes 2 fjw 1 bes 2 fjw 1 bes 2 g2k 1 aw4
   2 g2k 1 aw4 2 g2k 3 | 8c0 ; Asia/Dhaka Asia/Dacca | gqs 0 gcw 0 i20 0 fa0 0 go0 0 jg0 1 |
   -2z3bid8 1 -r080dw 2 -bmgyw 3 82s 2 6tmk 4 17dpa 5 eg0 4 | go0 ; Asia/Dili | n98 0 m80 0 p00 0 |
   4qqrk 1 mnjw 2 pp40 1 ibhg 2 | p00 ; Asia/Dubai | a8o 0 b40 0 | -3eqwkvc 1 | b40 ; Asia/Dushanbe
   | cqo 0 dw0 0 go0 0 jg0 1 go0 1 | -3h0bzpc 1 -379yuo 2 125uk 3 djw 2 dhg 3 djw 2 dhg 3 djw 2 dk4
   3 dhk 2 dhc 3 dhc 2 dhc 3 dhc 2 dhc 3 dhc 2 dhc 3 dhc 2 dhc 3 dhc 2 dhc 3 e00 2 dhc 4 c04 1 |
   dw0 ; Asia/Famagusta | 6ac 0 5k0 0 8c0 1 8c0 0 | -3fq1i5o 1 -rvhy2c 2 dh8 1 g04 2 b18 1 cw4 2
   cyk 1 e04 2 djw 1 des 2 dh8 1 e04 2 cyk 1 dhg 2 dh8 1 dhg 2 dh8 1 dhg 2 dh8 1 dhg 2 dzw 1 dhg 2
   dh8 1 dhg 2 dh8 1 dhg 2 dh8 1 dhg 2 dh8 1 dhg 2 dh8 1 dhg 2 dzw 1 dhg 2 dh8 1 dhg 2 dh8 1 dhg 2
   dh8 1 dhg 2 dh8 1 dhg 2 dh8 1 e04 2 dh8 1 dhg 2 dh8 1 dhg 2 fkc 1 beo 2 g2o 1 aw0 2 g2o 1 aw0 2
   g2o 1 beo 2 fk0 1 beo 2 fk0 1 beo 2 g2o 1 aw0 2 g2o 1 aw0 2 g2o 1 aw0 2 g2o 1 beo 2 fk0 1 beo 2
   fk0 1 beo 2 g2o 1 aw0 2 g2o 1 aw0 2 g2o 1 beo 2 fk0 1 beo 2 fk0 1 beo 2 fk0 1 beo 2 c7k 3 uts 1
   | 5k0 8c0 3 5 0 8c0 a 5 0 b40 ; Asia/Gaza | 6ds 0 5k0 0 8c0 1 | -34p8be8 1 -kp9t1s 2 91c 1 3hc 2
   1gw0 1 b6o 2 fuo 1 b9c 2 fuo 1 cao 2 eqo 1 cao 2 eqo 1 7wns 2 anw 1 fpg 2 bbw 1 fpk 2 b9g 1 fuk
   2 b9g 1 frw 2 b9g 1 frw 2 b9g 1 frw 2 b9g 1 fuk 2 b9g 1 frw 2 b9g 1 frw 2 bc4 1 fp8 2 2l4 1 5bs4
   2 798 1 e04 2 9uk 1 3p9g 2 340 1 2qio 2 8ao 1 h40 2 ad8 1 j6s 2 8ak 1 gas 2 b6k 1 fk4 2 avw 1
   hms 2 9bw 1 f1g 2 bek 1 fk4 2 bx8 1 fk4 2 bx8 1 fes 2 bjw 1 fes 2 b18 1 fxg 2 bjw 1 fxg 2 cg0 1
   eio 2 cg0 1 eio 2 cg0 1 fk0 2 dh8 1 e04 2 dh8 1 dhg 2 dh8 1 dhg 2 dh8 1 dhg 2 dh8 1 dhg 2 cg0 1
   eio 2 cqs 1 d98 2 cvw 1 e5g 2 c84 1 el8 2 bek 1 fk4 2 bxc 1 -ahs1o 2 -71mic 1 -bzk5o 2 -69uic 1
   hxg 2 cyo 1 e00 2 dh8 1 dhg 2 fjw 1 bhg 2 fhc 1 bhg 2 g2k 1 aw4 2 g2k 1 aw4 2 g2k 1 bc0 2 fmk 1
   bes 2 fk0 1 beo 2 g00 1 b1c 2 g04 1 dhg 2 dh8 1 cys 2 dzw 1 cg4 2 eik 1 bes 2 fjw 1 bes 2 g2k 1
   aw4 2 g2k 1 aw4 2 g2k 1 bes 2 fjw 1 bes 2 fjw 1 bes 2 g2k 1 aw4 2 g2k 1 aw4 2 g2k 1 aw4 2 g2k 1
   bes 2 f18 1 bxg 2 eik 1 cg4 2 dh8 1 dhg 2 cyk 1 e04 2 bx8 1 3ms 2 ik 1 bes 2 avw 1 344 2 1jw 1
   bes 2 ad8 1 344 2 22k 1 bes 2 9bw 1 3ms 2 2l8 1 bes 2 8t8 1 344 2 458 1 aw4 2 8ak 1 344 2 4nw 1
   aw4 2 798 1 3ms 2 56k 1 bes 2 67w 1 344 2 67w 1 bes 2 56k 1 3ms 2 6qk 1 bes 2 4nw 1 344 2 8ak 1
   aw4 2 458 1 344 2 8t8 1 aw4 2 33w 1 3ms 2 9bw 1 bes 2 22k 1 344 2 ad8 1 bes 2 118 1 3ms 2 avw 1
   bes 2 ik 1 3ms 2 bek 1 eis 2 cyk 1 dhg 2 dh8 1 cg4 2 eik 1 bxg 2 f18 1 bes 2 fjw 1 bes 2 g2k 1
   aw4 2 g2k 1 aw4 2 g2k 1 aw4 2 g2k 1 bes 2 fjw 1 bes 2 fjw 1 bes 2 g2k 1 aw4 2 g2k 1 aw4 2 fjw 1
   bxg 2 eik 1 cg4 2 dzw 1 cys 2 cyk 1 e04 2 cfw 1 344 2 ik 1 aw4 2 bx8 1 344 2 118 1 aw4 2 avw 1
   3ms 2 1jw 1 bes 2 9uk 1 344 2 2l8 1 bes 2 8t8 1 3ms 2 33w 1 bes 2 8ak 1 3ms 2 458 1 aw4 2 7rw 1
   344 2 56k 1 aw4 2 6qk 1 3ms 2 5p8 1 bes 2 5p8 1 344 2 6qk 1 bes 2 56k 1 344 2 798 1 bes 2 458 1
   3ms 2 7rw 1 bes 2 3mk 1 344 2 9bw 1 aw4 2 2l8 1 3ms 2 9uk 1 aw4 2 22k 1 3ms 2 ad8 1 bes 2 118 1
   344 2 | 5k0 8c0 3 4 4 3uw0 a 4 4 3uw0 ; Asia/Hebron | 6hz 0 5k0 0 8c0 1 | -34p8ba1 1 -kp9t5z 2
   91c 1 3hc 2 1gw0 1 b6o 2 fuo 1 b9c 2 fuo 1 cao 2 eqo 1 cao 2 eqo 1 7wns 2 anw 1 fpg 2 bbw 1 fpk
   2 b9g 1 fuk 2 b9g 1 frw 2 b9g 1 frw 2 b9g 1 frw 2 b9g 1 fuk 2 b9g 1 frw 2 b9g 1 frw 2 bc4 1 fp8
   2 2l4 1 5bs4 2 798 1 e04 2 9uk 1 3p9g 2 340 1 2qio 2 8ao 1 h40 2 ad8 1 j6s 2 8ak 1 gas 2 b6k 1
   fk4 2 avw 1 hms 2 9bw 1 f1g 2 bek 1 fk4 2 bx8 1 fk4 2 bx8 1 fes 2 bjw 1 fes 2 b18 1 fxg 2 bjw 1
   fxg 2 cg0 1 eio 2 cg0 1 eio 2 cg0 1 fk0 2 dh8 1 e04 2 dh8 1 dhg 2 dh8 1 dhg 2 dh8 1 dhg 2 dh8 1
   dhg 2 cg0 1 eio 2 cqs 1 d98 2 cvw 1 e5g 2 c84 1 el8 2 bmk 1 fc4 2 bxc 1 f1c 2 a7w 1 -bzk5o 2
   -69uic 1 25g 2 2ak 1 dhg 2 cyo 1 e00 2 dh8 1 dhg 2 fjw 1 bhg 2 fhc 1 bhg 2 g2k 1 aw4 2 g2k 1 aw4
   2 g2k 1 bc0 2 fmk 1 bes 2 fk0 1 beo 2 g00 1 b1c 2 g04 1 dhg 2 dh8 1 cys 2 dzw 1 cg4 2 eik 1 bes
   2 fjw 1 bes 2 g2k 1 aw4 2 g2k 1 aw4 2 g2k 1 bes 2 fjw 1 bes 2 fjw 1 bes 2 g2k 1 aw4 2 g2k 1 aw4
   2 g2k 1 aw4 2 g2k 1 bes 2 f18 1 bxg 2 eik 1 cg4 2 dh8 1 dhg 2 cyk 1 e04 2 bx8 1 3ms 2 ik 1 bes 2
   avw 1 344 2 1jw 1 bes 2 ad8 1 344 2 22k 1 bes 2 9bw 1 3ms 2 2l8 1 bes 2 8t8 1 344 2 458 1 aw4 2
   8ak 1 344 2 4nw 1 aw4 2 798 1 3ms 2 56k 1 bes 2 67w 1 344 2 67w 1 bes 2 56k 1 3ms 2 6qk 1 bes 2
   4nw 1 344 2 8ak 1 aw4 2 458 1 344 2 8t8 1 aw4 2 33w 1 3ms 2 9bw 1 bes 2 22k 1 344 2 ad8 1 bes 2
   118 1 3ms 2 avw 1 bes 2 ik 1 3ms 2 bek 1 eis 2 cyk 1 dhg 2 dh8 1 cg4 2 eik 1 bxg 2 f18 1 bes 2
   fjw 1 bes 2 g2k 1 aw4 2 g2k 1 aw4 2 g2k 1 aw4 2 g2k 1 bes 2 fjw 1 bes 2 fjw 1 bes 2 g2k 1 aw4 2
   g2k 1 aw4 2 fjw 1 bxg 2 eik 1 cg4 2 dzw 1 cys 2 cyk 1 e04 2 cfw 1 344 2 ik 1 aw4 2 bx8 1 344 2
   118 1 aw4 2 avw 1 3ms 2 1jw 1 bes 2 9uk 1 344 2 2l8 1 bes 2 8t8 1 3ms 2 33w 1 bes 2 8ak 1 3ms 2
   458 1 aw4 2 7rw 1 344 2 56k 1 aw4 2 6qk 1 3ms 2 5p8 1 bes 2 5p8 1 344 2 6qk 1 bes 2 56k 1 344 2
   798 1 bes 2 458 1 3ms 2 7rw 1 bes 2 3mk 1 344 2 9bw 1 aw4 2 2l8 1 3ms 2 9uk 1 aw4 2 22k 1 3ms 2
   ad8 1 bes 2 118 1 344 2 | 5k0 8c0 3 4 4 3uw0 a 4 4 3uw0 ; Asia/Ho_Chi_Minh Asia/Saigon | jqu 0
   jg0 0 m80 0 p00 0 | -3a7zi16 1 -gj25iu 2 1njw 3 co0 1 16o8 2 676o 1 3duk 2 blxc 1 | jg0 ;
   Asia/Hong_Kong Hongkong | l56 0 m80 0 p00 1 nm0 1 p00 0 | 4lcro 1 riw8 2 800 3 6aa 4 2xhi 1 bek
   2 glq 1 9uo 2 h40 1 beo 2 dhc 1 beo 2 fk0 1 beo 2 fk0 1 beo 2 fk0 1 bxc 2 fk0 1 beo 2 fjw 1 adg
   2 gl8 1 adg 2 h3w 1 9us 2 h3w 1 adg 2 gl8 1 adg 2 gl8 1 adg 2 gl8 1 adg 2 h3w 1 9us 2 h3w 1 9us
   2 h3w 1 adg 2 gl8 1 adg 2 gl8 1 cg4 2 dh8 1 dhg 2 dh8 1 dhg 2 dzw 1 dhg 2 dh8 1 dhg 2 dh8 1 dhg
   2 dh8 1 dhg 2 dh8 1 dhg 2 dzw 1 dhg 2 dh8 1 56s 2 lrw 1 dhg 2 dh8 1 dhg 2 dh8 1 1xhg 2 bx8 1 |
   m80 ; Asia/Hovd | gz0 0 go0 0 jg0 0 m80 1 | -3780jh0 1 -11sncb0 2 3xx8 3 djw 2 dk4 3 dh8 2 dhg 3
   dh8 2 dhg 3 dh8 2 dhg 3 dh8 2 dhg 3 dh8 2 dhg 3 dh8 2 dhg 3 dzw 2 dhg 3 dh8 2 dhg 3 dh8 2 dhg 3
   dh8 2 dhg 3 dh8 2 dhg 3 dh8 2 e04 3 dh8 2 dhg 3 dh8 2 dhg 3 dh8 2 1xxo 3 bek 2 dhg 3 dh8 2 dhg 3
   dh8 2 dhg 3 dh8 2 dhg 3 dh8 2 dhg 3 dzw 2 6dpg 3 dh0 2 dho 3 dh0 2 | jg0 ; Asia/Irkutsk | jb5 0
   jg0 0 m80 0 p00 1 m80 1 p00 0 | -3es4rsv 1 -5fh175 2 125uk 3 djw 2 dhg 3 djw 2 dhg 3 djw 2 dk4 3
   dhk 2 dhc 3 dhc 2 dhc 3 dhc 2 dhc 3 dhc 2 dhc 3 dhc 2 dhc 3 dhc 2 dhc 3 e00 2 dhc 4 dhg 1 8ao 2
   56k 3 dhc 2 dhc 3 dhc 2 dhc 3 dhc 2 dhc 3 dhc 2 e00 3 fk0 2 beo 3 fk0 2 beo 3 fk0 2 beo 3 g2o 2
   aw0 3 g2o 2 aw0 3 g2o 2 beo 3 fk0 2 beo 3 fk0 2 beo 3 g2o 2 aw0 3 g2o 2 aw0 3 g2o 2 aw0 3 g2o 2
   beo 3 fk0 2 beo 3 fk0 2 beo 3 g2o 2 aw0 5 2oyk 2 | m80 ; Asia/Istanbul Europe/Istanbul Turkey |
   5d4 0 5ew 0 5k0 0 8c0 1 8c0 0 b40 1 | -2tvf0ew 1 -g1oam8 2 -2wvx6w 3 bbw 2 2mdg 3 fmk 2 bus 3
   djw 2 cw4 3 eik 2 176s 3 afw 2 fpg 3 bbw 2 b31g 3 76k 2 45g 3 lrw 2 e84 3 2n98 2 hhg 3 918 2 ew4
   3 cfw 2 eis 3 cfw 2 e04 3 cyk 2 eis 3 cyk 2 eis 3 cfw 2 83es 3 yyk 2 eo4 3 aak 2 6ilk 3 beo 2
   aw4 3 g2k 2 aas 3 gnw 2 adg 3 gl8 2 bes 3 eik 2 cg4 3 6ic 4 3tmw 5 4nw 4 tc4 2 clc 3 bxc 2 dk0 3
   dhc 2 dhc 3 dhc 2 dhc 3 dhc 2 dhc 3 dhc 2 dhc 3 e00 2 dhc 3 dhc 2 dhc 3 dhc 2 dhc 3 dhc 2 cyo 3
   e00 2 dhc 3 dhc 2 e00 3 fk0 2 beo 3 fk0 2 beo 3 fk0 2 beo 3 g2o 2 aw0 3 g2o 2 aw0 3 g2o 2 beo 3
   fk0 2 beo 3 fk0 2 beo 3 g2o 2 aw0 3 g2o 2 aw0 3 g2o 2 aw8 3 g2o 2 beo 3 fk0 2 beo 3 fk0 2 beo 3
   g2o 2 ayo 3 g00 2 aw0 3 g2o 2 beo 3 fk0 2 bhc 3 fhc 2 beo 3 glc 2 adc 3 c4w 4 | 8c0 ;
   Asia/Jakarta | js0 0 kdc 0 ku0 0 p00 0 m80 0 jg0 0 | -3gu1uqo 1 6n1c 2 -4wdzjc 3 2mt6 2 1yg6 4
   1i2m 2 a9uq 5 | jg0 ; Asia/Jayapura | q20 0 p00 0 qe0 0 | -3lg1me0 1 -66bqe0 2 ej1a 1 | p00 ;
   Asia/Jerusalem Asia/Tel_Aviv Israel | 6iu 0 6ig 0 5k0 0 8c0 1 b40 1 | -2tvez96 1 -jtxuoe 2
   -bp5aig 3 91c 2 3hc 3 1gw0 2 b6o 3 fuo 2 b9c 3 fuo 2 cao 3 eqo 2 cao 3 eqo 2 165c 4 7hc 3 4io 2
   deo 3 dmo 2 cao 3 b9c 2 eo0 3 glc 2 bxc 3 dhc 2 cyo 3 beo 2 k80 3 6qo 2 k80 3 6qo 2 jpc 3 8tc 2
   fk0 3 aw0 2 cm7s 3 798 2 e04 3 9uk 2 3p9g 3 340 2 2qio 3 8ao 2 h40 3 ad8 2 j6s 3 8ak 2 gas 3 b6k
   2 fk4 3 avw 2 hms 3 9bw 2 f1g 3 bek 2 fk4 3 bx8 2 fk4 3 bx8 2 fes 3 bjw 2 fes 3 b18 2 fxg 3 bjw
   2 edg 3 dp8 2 ds4 3 d3w 2 dus 3 cl8 2 ff0 3 bek 2 glg 3 cyg 2 dpg 3 cfw 2 ds4 3 e7w 2 cqs 3 dzw
   2 dus 3 cfw 2 e5k 3 e58 2 ctg 3 dmk 2 dc4 3 cl8 2 edg 3 e58 2 ctg 3 dmk 2 dc4 3 cl8 2 ew4 3 dmk
   2 dc4 3 d3w 2 dus 3 | 5k0 8c0 3 4 4 2080 a 5 0 5k0 ; Asia/Kabul | ctc 0 b40 0 ci0 0 | -2z3bmao 1
   -spc1pc 2 | ci0 ; Asia/Kamchatka | tdo 0 uk0 0 xc0 0 1040 1 xc0 1 | -3g8ldqc 1 -3z045o 2 125uk 3
   djw 2 dhg 3 djw 2 dhg 3 djw 2 dk4 3 dhk 2 dhc 3 dhc 2 dhc 3 dhc 2 dhc 3 dhc 2 dhc 3 dhc 2 dhc 3
   dhc 2 dhc 3 e00 2 dhc 4 dhg 1 8ao 2 56k 3 dhc 2 dhc 3 dhc 2 dhc 3 dhc 2 dhc 3 dhc 2 e00 3 fk0 2
   beo 3 fk0 2 beo 3 fk0 2 beo 3 g2o 2 aw0 3 g2o 2 aw0 3 g2o 2 beo 3 fk0 2 beo 3 fk0 2 beo 3 g2o 2
   aw0 3 g2o 2 aw0 3 g2o 2 aw0 3 g2o 2 beo 3 fk0 2 beo 3 fk0 2 beo 4 g2s 1 aw0 2 | xc0 ;
   Asia/Karachi | cf0 0 fa0 0 i20 1 dw0 0 go0 1 | -37ynxd0 1 -im3zt0 2 2cfw 1 4h6s 3 11yte 4 dh8 3
   48ys 4 bbw 3 c84 4 et8 3 | dw0 ; Asia/Kashgar Asia/Urumqi | g7w 0 go0 0 | -3ix7iw4 1 | go0 ;
   Asia/Kathmandu Asia/Katmandu | fss 0 fa0 0 fz0 0 | -3eqwfb8 1 -yg2lus 2 | fz0 ; Asia/Khandyga |
   p3p 0 m80 0 p00 0 rs0 1 p00 1 rs0 0 uk0 1 uk0 0 | -3eq0oob 1 -5hl1jp 2 125uk 3 djw 2 dhg 3 djw 2
   dhg 3 djw 2 dk4 3 dhk 2 dhc 3 dhc 2 dhc 3 dhc 2 dhc 3 dhc 2 dhc 3 dhc 2 dhc 3 dhc 2 dhc 3 e00 2
   dhc 4 dhg 1 8ao 2 56k 3 dhc 2 dhc 3 dhc 2 dhc 3 dhc 2 dhc 3 dhc 2 e00 3 fk0 2 beo 3 fk0 2 beo 3
   fk0 2 beo 3 g2o 2 aw0 3 g2o 2 aw0 3 g2o 2 beo 3 fk0 2 beo 3 fk0 2 4yg 5 6g4 6 g2o 5 aw0 6 g2o 5
   aw0 6 g2o 5 aw0 6 g2o 5 beo 6 fk0 5 beo 6 fk0 5 beo 6 g2o 5 aw0 7 cl0 5 2cdo 2 | p00 ;
   Asia/Kolkata Asia/Calcutta | gd4 0 gcw 0 eva 0 fa0 0 i20 1 | -2gk35ew 1 -83glc8 2 -isc6tm 3
   -innm9a 4 gqk 3 82s 4 2cfw 3 | fa0 ; Asia/Krasnoyarsk | h72 0 go0 0 jg0 0 m80 1 jg0 1 m80 0 |
   -3er5n8y 1 -5gg8j2 2 125uk 3 djw 2 dhg 3 djw 2 dhg 3 djw 2 dk4 3 dhk 2 dhc 3 dhc 2 dhc 3 dhc 2
   dhc 3 dhc 2 dhc 3 dhc 2 dhc 3 dhc 2 dhc 3 e00 2 dhc 4 dhg 1 8ao 2 56k 3 dhc 2 dhc 3 dhc 2 dhc 3
   dhc 2 dhc 3 dhc 2 e00 3 fk0 2 beo 3 fk0 2 beo 3 fk0 2 beo 3 g2o 2 aw0 3 g2o 2 aw0 3 g2o 2 beo 3
   fk0 2 beo 3 fk0 2 beo 3 g2o 2 aw0 3 g2o 2 aw0 3 g2o 2 aw0 3 g2o 2 beo 3 fk0 2 beo 3 fk0 2 beo 3
   g2o 2 aw0 5 2oyk 2 | jg0 ; Asia/Kuala_Lumpur | ity 0 j8d 0 jg0 0 kdc 1 kdc 0 ku0 0 p00 0 m80 0 |
   -34tyca2 1 -2ax69l 2 -eeb94d 3 -1kbr2o 4 49c0 5 -8n3jc 6 2ol6 5 ra84 7 | m80 ; Asia/Kuching |
   kfk 0 ku0 0 m80 0 n5c 1 p00 0 | -3hyotcg 1 -3khwxk 2 211a 3 -4ohqo 2 -e5a9c 3 -4ohqo 2 -e3flc 3
   -4ohqo 2 -e3flc 3 -4ohqo 2 -e3flc 3 -4ohqo 2 -e5a9c 3 -4ohqo 2 -e3flc 3 -4ohqo 2 -3ajlc 4 2ol8 2
   | m80 ; Asia/Kuwait | 8vw 0 8c0 0 | -3uel7k4 1 | 8c0 ; Asia/Macau Asia/Macao | l0y 0 m80 0 p00 0
   rs0 1 p00 1 | -36tv632 1 -jdvyoy 2 9mk 3 evw 2 c5g 3 bbw 2 1i5k 1 fpc 4 bc0 1 ew0 4 go0 1 beo 4
   dhc 1 bc0 4 fk0 1 beo 4 fk0 1 beo 4 fmo 1 buo 4 fk0 1 beo 4 fk0 1 adc 4 glc 1 adc 4 h40 1 9uo 4
   h4e 1 adg 4 gl8 1 adg 4 gl8 1 adg 4 gl8 1 adg 4 h3w 1 9us 4 h3w 1 9us 4 h3w 1 adg 4 gl8 1 adg 4
   gl8 1 cg4 4 dh4 1 dhk 4 dh4 1 dhk 4 dzw 1 dhg 4 dh8 1 dhg 4 dh8 1 dhg 4 dh8 1 dhg 4 dh8 1 dhg 4
   dzw 1 dhg 4 dh8 1 56s 4 lrw 1 dhg 4 dh8 1 dhg 4 dh8 1 1xhg 4 bx8 1 | m80 ; Asia/Magadan | rxc 0
   rs0 0 uk0 0 xc0 1 uk0 1 xc0 0 | -3h0bkio 1 -37a05c 2 125uk 3 djw 2 dhg 3 djw 2 dhg 3 djw 2 dk4 3
   dhk 2 dhc 3 dhc 2 dhc 3 dhc 2 dhc 3 dhc 2 dhc 3 dhc 2 dhc 3 dhc 2 dhc 3 e00 2 dhc 4 dhg 1 8ao 2
   56k 3 dhc 2 dhc 3 dhc 2 dhc 3 dhc 2 dhc 3 dhc 2 e00 3 fk0 2 beo 3 fk0 2 beo 3 fk0 2 beo 3 g2o 2
   aw0 3 g2o 2 aw0 3 g2o 2 beo 3 fk0 2 beo 3 fk0 2 beo 3 g2o 2 aw0 3 g2o 2 aw0 3 g2o 2 aw0 3 g2o 2
   beo 3 fk0 2 beo 3 fk0 2 beo 3 g2o 2 aw0 5 2oyk 1 14g8 2 | uk0 ; Asia/Makassar Asia/Ujung_Pandang
   | m40 0 m80 0 p00 0 | -3lg1qc0 1 -4u87w0 2 2px8 1 | m80 ; Asia/Manila | -189k 0 meg 0 m80 0 p00
   1 p00 0 | -2blubdk 1 -sjc9ig 2 rx5c 3 5mk 2 3oys 3 4ak 4 2ao0 3 k5c 2 6a84 3 3zw 2 h56s 3 d6k 2
   9iis 3 53w 2 | m80 ; Asia/Muscat | auo 0 b40 0 | -3eqwk9c 1 | b40 ; Asia/Nicosia Europe/Nicosia
   | 66g 0 5k0 0 8c0 1 | -3fq1i9k 1 -rvhxyg 2 dh8 1 g04 2 b18 1 cw4 2 cyk 1 e04 2 djw 1 des 2 dh8 1
   e04 2 cyk 1 dhg 2 dh8 1 dhg 2 dh8 1 dhg 2 dh8 1 dhg 2 dzw 1 dhg 2 dh8 1 dhg 2 dh8 1 dhg 2 dh8 1
   dhg 2 dh8 1 dhg 2 dh8 1 dhg 2 dzw 1 dhg 2 dh8 1 dhg 2 dh8 1 dhg 2 dh8 1 dhg 2 dh8 1 dhg 2 dh8 1
   e04 2 dh8 1 dhg 2 dh8 1 dhg 2 fkc 1 | 5k0 8c0 3 5 0 8c0 a 5 0 b40 ; Asia/Novokuznetsk | g5c 0
   go0 0 jg0 0 m80 1 jg0 1 | -3h0a1mo 1 -37bu5c 2 125uk 3 djw 2 dhg 3 djw 2 dhg 3 djw 2 dk4 3 dhk 2
   dhc 3 dhc 2 dhc 3 dhc 2 dhc 3 dhc 2 dhc 3 dhc 2 dhc 3 dhc 2 dhc 3 e00 2 dhc 4 dhg 1 8ao 2 56k 3
   dhc 2 dhc 3 dhc 2 dhc 3 dhc 2 dhc 3 dhc 2 e00 3 fk0 2 beo 3 fk0 2 beo 3 fk0 2 beo 3 g2o 2 aw0 3
   g2o 2 aw0 3 g2o 2 beo 3 fk0 2 beo 3 fk0 2 beo 3 g2o 2 aw0 3 g2o 2 aw0 3 g2o 2 aw0 3 g2o 2 beo 3
   fk0 2 beo 3 fk0 2 beo 4 g2s 1 aw0 2 | jg0 ; Asia/Novosibirsk | fcs 0 go0 0 jg0 0 m80 1 jg0 1 |
   -3epzkf8 1 -5hmbcs 2 125uk 3 djw 2 dhg 3 djw 2 dhg 3 djw 2 dk4 3 dhk 2 dhc 3 dhc 2 dhc 3 dhc 2
   dhc 3 dhc 2 dhc 3 dhc 2 dhc 3 dhc 2 dhc 3 e00 2 dhc 4 dhg 1 8ao 2 56k 3 dhc 2 dhc 3 450 4 9cg 1
   dhc 4 dhc 1 dhc 4 dhc 1 e00 4 fk0 1 beo 4 fk0 1 beo 4 fk0 1 beo 4 g2o 1 aw0 4 g2o 1 aw0 4 g2o 1
   beo 4 fk0 1 beo 4 fk0 1 beo 4 g2o 1 aw0 4 g2o 1 aw0 4 g2o 1 aw0 4 g2o 1 beo 4 fk0 1 beo 4 fk0 1
   beo 4 g2o 1 aw0 2 2oyk 1 1b6s 2 | jg0 ; Asia/Omsk | dl6 0 dw0 0 go0 0 jg0 1 go0 1 jg0 0 |
   -3eofliu 1 -5j6d16 2 125uk 3 djw 2 dhg 3 djw 2 dhg 3 djw 2 dk4 3 dhk 2 dhc 3 dhc 2 dhc 3 dhc 2
   dhc 3 dhc 2 dhc 3 dhc 2 dhc 3 dhc 2 dhc 3 e00 2 dhc 4 dhg 1 8ao 2 56k 3 dhc 2 dhc 3 dhc 2 dhc 3
   dhc 2 dhc 3 dhc 2 e00 3 fk0 2 beo 3 fk0 2 beo 3 fk0 2 beo 3 g2o 2 aw0 3 g2o 2 aw0 3 g2o 2 beo 3
   fk0 2 beo 3 fk0 2 beo 3 g2o 2 aw0 3 g2o 2 aw0 3 g2o 2 aw0 3 g2o 2 beo 3 fk0 2 beo 3 fk0 2 beo 3
   g2o 2 aw0 5 2oyk 2 | go0 ; Asia/Oral | 9ic 0 8c0 0 dw0 0 go0 1 go0 0 dw0 1 b40 0 | -3h0c2xo 1
   -37a16c 2 125ug 3 djw 4 dhc 3 dk0 2 dhg 3 djw 2 dk4 3 dhk 2 dhc 3 dhc 2 dhc 3 dhc 2 dhc 3 dhc 2
   dhc 3 dhc 2 dhc 5 dhg 6 dhc 5 e00 6 dhc 5 dhc 6 8ao 2 56k 5 dhg 6 dhc 5 dhc 6 dhc 5 dhc 6 dhc 5
   dhc 6 e00 5 fk0 6 beo 5 fk0 6 beo 5 fk0 6 beo 5 g2o 6 aw0 5 g2o 6 aw0 5 g2o 6 beo 5 fk0 6 beo 5
   fk0 6 beo 5 g2o 2 | dw0 ; Asia/Phnom_Penh | jfg 0 jqu 0 jg0 0 m80 0 p00 0 | -37p6zok 1 -2isicm 2
   -gj25iu 3 1njw 4 co0 2 | jg0 ; Asia/Pontianak | k8w 0 ku0 0 p00 0 m80 0 jg0 0 | -3lg1s74 1
   -4tnu2w 2 2qqi 1 1yg6 3 1i2m 1 a9uq 3 i1by 4 | jg0 ; Asia/Pyongyang | nac 0 nm0 0 p00 0 |
   -38m42ho 1 -1yh10c 2 25vha 1 21mo 2 | p00 ; Asia/Qatar | 9jk 0 b40 0 8c0 0 | -3eqwlkg 1 -rctnrk
   2 | 8c0 ; Asia/Qostanay | bs4 0 b40 0 dw0 0 go0 1 go0 0 dw0 1 | -3h0c0nw 1 -37a0o4 2 125uk 3 djw
   4 dhc 3 dk0 2 dhg 3 djw 2 dk4 3 dhk 2 dhc 3 dhc 2 dhc 3 dhc 2 dhc 3 dhc 2 dhc 3 dhc 2 dhc 3 dhc
   2 dhc 3 e00 2 dhc 5 dhg 1 8ao 2 56k 3 dhc 2 dhc 3 dhc 2 dhc 3 dhc 2 dhc 3 dhc 2 e00 3 fk0 2 beo
   3 fk0 2 beo 3 fk0 2 beo 3 g2o 2 aw0 3 g2o 2 aw0 3 g2o 2 beo 3 fk0 2 beo 3 fk0 2 beo 3 g2o 4 ej10
   2 | dw0 ; Asia/Qyzylorda | c4g 0 b40 0 dw0 0 go0 1 go0 0 dw0 1 | -3h0c0bk 1 -37a10g 2 125uk 3
   djw 4 dhc 3 dk0 2 dhg 3 djw 2 dk4 3 dhk 2 dhc 3 dhc 2 dhc 3 dhc 2 dhc 3 dhc 2 dhc 3 dhc 2 dhc 3
   dhc 2 dhc 3 e00 2 dhc 5 dhg 2 8ak 4 56k 3 dhg 2 dhc 3 dhc 2 dhc 3 dhc 2 dhc 3 dhc 2 e00 3 fk0 2
   beo 3 fk0 2 beo 3 fk0 2 beo 3 g2o 2 aw0 3 g2o 2 aw0 3 g2o 2 beo 3 fk0 2 beo 3 fk0 2 beo 3 g2o 4
   amic 2 | dw0 ; Asia/Riyadh | 8ng 0 8c0 0 | -3sxwx4k 1 | 8c0 ; Asia/Sakhalin | qfc 0 p00 0 uk0 0
   xc0 1 uk0 1 rs0 0 | -37950oo 1 -kvnarc 2 qr6g 3 djw 2 dhg 3 djw 2 dhg 3 djw 2 dk4 3 dhk 2 dhc 3
   dhc 2 dhc 3 dhc 2 dhc 3 dhc 2 dhc 3 dhc 2 dhc 3 dhc 2 dhc 3 e00 2 dhc 4 dhg 5 8ao 2 56k 3 dhc 2
   dhc 3 dhc 2 dhc 3 dhc 2 dhc 3 dhc 2 e00 3 fk0 2 beo 4 fk4 5 beo 4 fk0 5 beo 4 g2o 5 aw0 4 g2o 5
   aw0 4 g2o 5 beo 4 fk0 5 beo 4 fk0 5 beo 4 g2o 5 aw0 4 g2o 5 aw0 4 g2o 5 aw0 4 g2o 5 beo 4 fk0 5
   beo 4 fk0 5 beo 4 g2o 5 aw0 2 2oyk 5 12dg 2 | uk0 ; Asia/Samarkand | ceh 0 b40 0 dw0 0 go0 1 go0
   0 | -3h0c01j 1 -37a1ah 2 125uk 3 djw 4 dhc 3 dk0 2 dhg 3 djw 2 dk4 3 dhk 2 dhc 3 dhc 2 dhc 3 dhc
   2 dhc 3 dhc 2 dhc 3 dhc 2 dhc 3 dhc 2 dhc 3 e00 2 dhc 3 dhc 2 | dw0 ; Asia/Seoul ROK | nig 0 nm0
   0 p00 0 rs0 1 qe0 1 | -38m429k 1 -1yh18g 2 rd9a 3 7p8 2 eys 3 bx8 2 eys 3 bzw 2 hms 3 9bw 2 1wg4
   1 ude 4 9ek 1 itg 4 9uk 1 g2s 4 ad8 1 glg 4 ad8 1 glg 4 ad8 1 glg 4 ad8 1 o5g 2 jcli 3 beo 2 fk0
   3 beo 2 | p00 ; Asia/Singapore Singapore | j8d 0 jg0 0 kdc 1 kdc 0 ku0 0 p00 0 m80 0 | -374vijn
   1 -eeb94d 2 -1kbr2o 3 49c0 4 -8n3jc 5 2ol6 4 ra84 6 | m80 ; Asia/Srednekolymsk | sgs 0 rs0 0 uk0
   0 xc0 1 uk0 1 xc0 0 | -3h0bjz8 1 -37a0os 2 125uk 3 djw 2 dhg 3 djw 2 dhg 3 djw 2 dk4 3 dhk 2 dhc
   3 dhc 2 dhc 3 dhc 2 dhc 3 dhc 2 dhc 3 dhc 2 dhc 3 dhc 2 dhc 3 e00 2 dhc 4 dhg 1 8ao 2 56k 3 dhc
   2 dhc 3 dhc 2 dhc 3 dhc 2 dhc 3 dhc 2 e00 3 fk0 2 beo 3 fk0 2 beo 3 fk0 2 beo 3 g2o 2 aw0 3 g2o
   2 aw0 3 g2o 2 beo 3 fk0 2 beo 3 fk0 2 beo 3 g2o 2 aw0 3 g2o 2 aw0 3 g2o 2 aw0 3 g2o 2 beo 3 fk0
   2 beo 3 fk0 2 beo 3 g2o 2 aw0 5 2oyk 2 | uk0 ; Asia/Taipei ROC | mi0 0 m80 0 p00 0 p00 1 |
   -3280ra0 1 -lsd1m0 2 5zpc 1 hhc 3 aak 1 eis 3 et8 1 dhg 3 bbw 1 fpg 3 bbw 1 fpg 3 bbw 1 fpg 3
   bbw 1 b9g 3 i58 1 b6s 3 fuk 1 b6s 3 fuk 1 b6s 3 djw 1 dk4 3 djw 1 dhg 3 djw 1 dhg 3 djw 1 dhg 3
   djw 1 i2s 3 918 1 i04 3 918 1 9e5g 3 djw 1 dhg 3 djw 1 2tes 3 6t8 1 | m80 ; Asia/Tashkent | ctz
   0 dw0 0 go0 0 jg0 1 go0 1 | -3h0bzm1 1 -379yxz 2 125uk 3 djw 2 dhg 3 djw 2 dhg 3 djw 2 dk4 3 dhk
   2 dhc 3 dhc 2 dhc 3 dhc 2 dhc 3 dhc 2 dhc 3 dhc 2 dhc 3 dhc 2 dhc 3 e00 2 dhc 4 dhg 1 | dw0 ;
   Asia/Tbilisi | 8an 0 8c0 0 b40 0 dw0 1 b40 1 | -3h0c45d 1 -h4tjyn 2 i3mk 3 djw 2 dhg 3 djw 2 dhg
   3 djw 2 dk4 3 dhk 2 dhc 3 dhc 2 dhc 3 dhc 2 dhc 3 dhc 2 dhc 3 dhc 2 dhc 3 dhc 2 dhc 3 e00 2 dhc
   4 dhg 1 dh4 4 dh8 1 dhg 4 dh8 1 dhg 4 dh8 2 dhc 3 dh8 2 e04 3 16ik 2 bes 3 fjw 2 bes 3 g2k 2 aw4
   3 g2k 2 aw4 3 g2k 2 bes 3 fjw 2 bes 3 fjw 2 bes 3 6qk 4 9cg 1 aw0 2 | b40 ; Asia/Tehran Iran |
   9iw 0 9q0 0 ci0 1 b40 0 dw0 1 | -3mt4qx4 1 -lsvh0w 2 fs0 3 bhe 4 9uo 3 79c 1 ele 2 8ik 1 dms 2
   drw 1 7yys 2 aik 1 dhg 2 dmk 1 des 2 dmk 1 des 2 dmk 1 des 2 dmk 1 des 2 dmk 1 dhg 2 dmk 1 des 2
   dmk 1 des 2 dmk 1 des 2 dmk 1 dhg 2 dmk 1 des 2 dmk 1 des 2 dmk 1 des 2 dmk 1 dhg 2 dmk 1 1vhg 2
   dmk 1 dhg 2 dmk 1 des 2 dmk 1 des 2 dmk 1 des 2 dmk 1 dhg 2 dmk 1 des 2 dmk 1 des 2 dmk 1 des 2
   dmk 1 dhg 2 dmk 1 des 2 dmk 1 des 2 dmk 1 des 2 dmk 1 dhg 2 dmk 1 des 2 dmk 1 | 9q0 ;
   Asia/Thimphu Asia/Thimbu | glo 0 fa0 0 go0 0 | -3t5tvuc 1 -kxymno 2 | go0 ; Asia/Tokyo Japan |
   pvn 0 p00 0 rs0 1 | 48pi4 1 19cao 2 9uo 1 f1c 2 bxc 1 hmo 2 9c0 1 hmo 2 9c0 1 | p00 ; Asia/Tomsk
   | fqf 0 go0 0 jg0 0 m80 1 jg0 1 | -3eqdwpl 1 -5h7z2f 2 125uk 3 djw 2 dhg 3 djw 2 dhg 3 djw 2 dk4
   3 dhk 2 dhc 3 dhc 2 dhc 3 dhc 2 dhc 3 dhc 2 dhc 3 dhc 2 dhc 3 dhc 2 dhc 3 e00 2 dhc 4 dhg 1 8ao
   2 56k 3 dhc 2 dhc 3 dhc 2 dhc 3 dhc 2 dhc 3 dhc 2 e00 3 fk0 2 beo 3 fk0 2 beo 3 fk0 2 beo 3 g2o
   2 aw0 3 g2o 2 aw0 3 g2o 2 beo 3 2ao 4 d9g 1 beo 4 fk0 1 beo 4 g2o 1 aw0 4 g2o 1 aw0 4 g2o 1 aw0
   4 g2o 1 beo 4 fk0 1 beo 4 fk0 1 beo 4 g2o 1 aw0 2 2oyk 1 171g 2 | jg0 ; Asia/Ust-Nera | qiu 0
   m80 0 p00 0 xc0 1 uk0 0 uk0 1 rs0 0 xc0 0 | -3eq0n96 1 -5hl2yu 2 125uk 3 djo 4 dhg 3 djw 4 dhg 3
   djw 4 dk4 3 dhk 4 dhc 3 dhc 4 dhc 3 dhc 4 dhc 3 dhc 4 dhc 3 dhc 4 dhc 3 dhc 4 dhc 3 e00 4 dhc 5
   dhg 6 8ao 4 56k 3 dhc 4 dhc 3 dhc 4 dhc 3 dhc 4 dhc 3 dhc 4 e00 3 fk0 4 beo 3 fk0 4 beo 3 fk0 4
   beo 3 g2o 4 aw0 3 g2o 4 aw0 3 g2o 4 beo 3 fk0 4 beo 3 fk0 4 beo 3 g2o 4 aw0 3 g2o 4 aw0 3 g2o 4
   aw0 3 g2o 4 beo 3 fk0 4 beo 3 fk0 4 beo 3 g2o 4 aw0 7 cl0 4 2cdo 6 | rs0 ; Asia/Vientiane | j00
   0 jqu 0 jg0 0 m80 0 p00 0 | -37p7040 1 -2ishx6 2 -gj25iu 3 1njw 4 co0 2 16o8 3 61h8 2 | jg0 ;
   Asia/Vladivostok | of7 0 p00 0 rs0 0 uk0 1 rs0 1 uk0 0 | -3g8us0t 1 -3yqvf7 2 125uk 3 djw 2 dhg
   3 djw 2 dhg 3 djw 2 dk4 3 dhk 2 dhc 3 dhc 2 dhc 3 dhc 2 dhc 3 dhc 2 dhc 3 dhc 2 dhc 3 dhc 2 dhc
   3 e00 2 dhc 4 dhg 1 8ao 2 56k 3 dhc 2 dhc 3 dhc 2 dhc 3 dhc 2 dhc 3 dhc 2 e00 3 fk0 2 beo 3 fk0
   2 beo 3 fk0 2 beo 3 g2o 2 aw0 3 g2o 2 aw0 3 g2o 2 beo 3 fk0 2 beo 3 fk0 2 beo 3 g2o 2 aw0 3 g2o
   2 aw0 3 g2o 2 aw0 3 g2o 2 beo 3 fk0 2 beo 3 fk0 2 beo 3 g2o 2 aw0 5 2oyk 2 | rs0 ; Asia/Yakutsk
   | o0y 0 m80 0 p00 0 rs0 1 p00 1 rs0 0 | -3eq0pr2 1 -5hl0gy 2 125uk 3 djw 2 dhg 3 djw 2 dhg 3 djw
   2 dk4 3 dhk 2 dhc 3 dhc 2 dhc 3 dhc 2 dhc 3 dhc 2 dhc 3 dhc 2 dhc 3 dhc 2 dhc 3 e00 2 dhc 4 dhg
   1 8ao 2 56k 3 dhc 2 dhc 3 dhc 2 dhc 3 dhc 2 dhc 3 dhc 2 e00 3 fk0 2 beo 3 fk0 2 beo 3 fk0 2 beo
   3 g2o 2 aw0 3 g2o 2 aw0 3 g2o 2 beo 3 fk0 2 beo 3 fk0 2 beo 3 g2o 2 aw0 3 g2o 2 aw0 3 g2o 2 aw0
   3 g2o 2 beo 3 fk0 2 beo 3 fk0 2 beo 3 g2o 2 aw0 5 2oyk 2 | p00 ; Asia/Yangon Asia/Rangoon | htb
   0 i20 0 p00 0 | -3eqwdap 1 -bnjp3b 2 29bq 1 | i20 ; Asia/Yekaterinburg | b89 0 af5 0 b40 0 dw0 0
   go0 1 dw0 1 go0 0 | -3cx7qjr 1 -1kybx4 2 -5pfyv5 3 125uk 4 djw 3 dhg 4 djw 3 dhg 4 djw 3 dk4 4
   dhk 3 dhc 4 dhc 3 dhc 4 dhc 3 dhc 4 dhc 3 dhc 4 dhc 3 dhc 4 dhc 3 dhc 4 e00 3 dhc 5 dhg 2 8ao 3
   56k 4 dhc 3 dhc 4 dhc 3 dhc 4 dhc 3 dhc 4 dhc 3 e00 4 fk0 3 beo 4 fk0 3 beo 4 fk0 3 beo 4 g2o 3
   aw0 4 g2o 3 aw0 4 g2o 3 beo 4 fk0 3 beo 4 fk0 3 beo 4 g2o 3 aw0 4 g2o 3 aw0 4 g2o 3 aw0 4 g2o 3
   beo 4 fk0 3 beo 4 fk0 3 beo 4 g2o 3 aw0 6 2oyk 3 | dw0 ; Asia/Yerevan | 88o 0 8c0 0 b40 0 dw0 1
   b40 1 | -3h0c47c 1 -h4tjwo 2 i3mk 3 djw 2 dhg 3 djw 2 dhg 3 djw 2 dk4 3 dhk 2 dhc 3 dhc 2 dhc 3
   dhc 2 dhc 3 dhc 2 dhc 3 dhc 2 dhc 3 dhc 2 dhc 3 e00 2 dhc 4 dhg 1 dhc 4 dhc 1 dhc 4 dhc 1 dhc 4
   dhc 1 dhc 4 dhc 2 14yk 3 fk0 2 beo 3 fk0 2 beo 3 g2o 2 aw0 3 g2o 2 aw0 3 g2o 2 beo 3 fk0 2 beo 3
   fk0 2 beo 3 g2o 2 aw0 3 g2o 2 aw0 3 g2o 2 aw0 3 g2o 2 beo 3 fk0 2 beo 3 fk0 2 beo 3 g2o 2 aw0 3
   g2o 2 | b40 ; Atlantic/Azores | -4r4 0 -5aw 0 -5k0 0 -2s0 1 0 1 -2s0 0 0 0 2s0 1 | -2vykuj4 1
   -em124w 2 3cqk 3 a2s 2 8w0 3 gvw 2 a5g 3 gvw 2 a5g 3 gvw 2 a84 3 gvw 2 a5g 3 gvw 2 1vs0 3 co0 2
   15hc 3 cg0 2 e00 3 cyo 2 eio 3 cyo 2 eio 3 cg0 2 15hc 3 cg0 2 dhc 3 dhc 2 14yo 3 dhc 2 cyo 3 e00
   2 eio 3 cg0 2 dhc 3 dhc 2 cyo 3 e00 2 eio 3 g2o 2 79c 3 gqo 2 dc0 3 dk0 2 buo 3 33w 4 8ao 3 56s
   2 adc 3 2l8 4 9uo 3 4o4 2 9uo 3 33w 4 9c0 3 4o4 2 9uo 3 33w 4 9c0 3 4o4 2 bxc 3 dhc 2 dho 3 dhc
   2 dhc 3 dhc 2 dhc 3 dhc 2 dhc 3 dhc 2 dhc 3 e00 2 dhc 3 dhc 2 dhc 3 dhc 2 dhc 3 dhc 2 dhc 3 dhc
   2 dhc 3 e00 2 dhc 3 dhc 2 dhc 3 dhc 2 dhc 3 dhc 2 dhc 3 dhc 2 dhc 3 dhc 2 dhc 3 e00 2 dhc 3 dhc
   2 dhc 3 dhc 2 dhc 3 dhc 2 dhc 3 dhc 5 bmyc 4 dhc 5 dhc 4 dhc 5 dhc 4 e00 5 dhc 4 dhc 5 dhc 4 dhc
   5 dhc 4 dhc 5 dhc 4 dhc 5 dhc 4 dhc 5 dhc 4 e00 5 dhc 4 dhc 5 dhc 4 dhc 5 6qs 6 6qk 7 600 4 7hc
   5 dhc 4 dhc 5 dhc 4 dhc 5 e00 4 | -2s0 0 3 5 0 0 a 5 0 2s0 ; Atlantic/Bermuda | -c06 0 -986 1
   -b40 0 -8c0 1 | -3dbhcg6 1 d6k 0 eg4 1 bh8 0 8hkc 2 -69z5ru 3 kqk 2 bes 3 gl8 2 9us 3 hmk 2 9c4
   3 hmk 2 15hg 3 8t8 2 io4 3 7rw 2 j6s 3 7rw 2 jpg 3 798 2 jpg 3 798 2 jpg 3 7rw 2 2slg 3 bek 2
   d5es 3 dh8 2 dhg 3 dh8 2 dhg 3 dzw 2 cys 3 dzw 2 dhg 3 dh8 2 dhg 3 dh8 2 dhg 3 dh8 2 dhg 3 dh8 2
   dhg 3 dzw 2 cys 3 dzw 2 dhg 3 dh8 2 dhg 3 dh8 2 dhg 3 dh8 2 bxg 3 f18 2 bxg 3 fjw 2 bes 3 fjw 2
   bes 3 fjw 2 bxg 3 f18 2 bxg 3 f18 2 bxg 3 fjw 2 bes 3 fjw 2 bes 3 fjw 2 bxg 3 f18 2 bxg 3 f18 2
   bxg 3 f18 2 bxg 3 fjw 2 bes 3 fjw 2 bes 3 fjw 2 bxg 3 f18 2 bxg 3 f18 2 bxg 3 fjw 2 bes 3 fjw 2
   bes 3 fjw 2 9us 3 | -b40 -8c0 3 2 0 5k0 b 1 0 5k0 ; Atlantic/Canary | -2uo 0 -2s0 0 0 0 2s0 1 |
   -3fvjwmo 1 -ctvupc 2 p6t4 3 cys 2 dhc 3 dhc 2 dhc 3 dhc 2 dhc 3 dhc 2 dhc 3 e00 2 dhc 3 dhc 2
   dhc 3 dhc 2 dhc 3 dhc 2 dhc 3 dhc 2 dhc 3 dhc 2 dhc 3 e00 2 dhc 3 dhc 2 dhc 3 dhc 2 dhc 3 dhc 2
   dhc 3 dhc 2 dhc 3 dhc 2 e00 3 | 0 2s0 3 5 0 2s0 a 5 0 5k0 ; Atlantic/Cape_Verde | -4cs 0 -5k0 0
   -2s0 1 -2s0 0 | 4qqso 1 n1pc 2 2cfw 1 mmoc 3 | -2s0 ; Atlantic/Faroe Atlantic/Faeroe | -194 0 0
   0 2s0 1 | -38hyr14 1 -127keuw 2 dhc 1 dhc 2 dhc 1 dhc 2 dhc 1 dhc 2 e00 1 dhc 2 dhc 1 dhc 2 dhc
   1 dhc 2 dhc 1 dhc 2 dhc 1 dhc 2 dhc 1 dhc 2 e00 1 dhc 2 dhc 1 dhc 2 dhc 1 dhc 2 dhc 1 dhc 2 dhc
   1 dhc 2 dhc 1 e00 2 | 0 2s0 3 5 0 2s0 a 5 0 5k0 ; Atlantic/Madeira | -34o 0 -2s0 0 0 1 2s0 1 0 0
   | 4qqsk 1 3cqk 2 a2s 1 8w0 2 gvw 1 a5g 2 gvw 1 a5g 2 gvw 1 a84 2 gvw 1 a5g 2 gvw 1 1vs0 2 co0 1
   15hc 2 cg0 1 e00 2 cyo 1 eio 2 cyo 1 eio 2 cg0 1 15hc 2 cg0 1 dhc 2 dhc 1 14yo 2 dhc 1 cyo 2 e00
   1 eio 2 cg0 1 dhc 2 dhc 1 cyo 2 e00 1 eio 2 g2o 1 79c 2 gqo 1 dc0 2 dk0 1 buo 2 33w 3 8ao 2 56s
   1 adc 2 2l8 3 9uo 2 4o4 1 9uo 2 33w 3 9c0 2 4o4 1 9uo 2 33w 3 9c0 2 4o4 1 bxc 2 dhc 1 dho 2 dhc
   1 dhc 2 dhc 1 dhc 2 dhc 1 dhc 2 dhc 1 dhc 2 e00 1 dhc 2 dhc 1 dhc 2 dhc 1 dhc 2 dhc 1 dhc 2 dhc
   1 dhc 2 e00 1 dhc 2 dhc 1 dhc 2 dhc 1 dhc 2 dhc 1 dhc 2 dhc 1 dhc 2 dhc 1 dhc 2 e00 1 dhc 2 dhc
   1 dhc 2 dhc 1 dhc 2 dhc 1 dhc 2 dhc 4 bnh0 3 cyo 4 dhc 3 dhc 4 dhc 3 e00 4 dhc 3 dhc 4 dhc 3 dhg
   4 dhc 3 dhc 4 dhc 3 dhc 4 dhc 3 dhc 4 dhc 3 e00 4 dhc 3 dhc 4 dhc 3 dhc 4 dhc 3 dhc 4 dhc 3 dhc
   4 dhc 3 dhc 4 e00 3 | 0 2s0 3 5 0 2s0 a 5 0 5k0 ; Atlantic/Reykjavik Iceland | -42o 0 -2s0 0 0 1
   0 0 | -38hgb6o 1 -4rpd9c 2 i04 1 918 2 jxg 1 73w 2 jxg 1 10ak 2 71g 1 deyk 2 dhk 1 8tg 2 inw 1
   8tc 2 i5c 1 9c0 2 h40 1 9uo 2 h40 1 9uo 2 h40 1 9uo 2 hmo 1 9c0 2 hmo 1 bxc 2 f1c 1 bxc 2 f1c 1
   bxc 2 fk0 1 beo 2 f1c 1 bxc 2 fk0 1 bxc 2 f1c 1 bxc 2 f1c 1 bxc 2 f1c 1 bxc 2 f1c 1 bxc 2 fk0 1
   bxc 2 f1c 1 bxc 2 f1c 1 bxc 2 f1c 1 bxc 2 f1c 1 bxc 2 f1c 1 bxc 2 fk0 1 bxc 2 f1c 1 bxc 2 f1c 1
   bxc 2 f1c 1 bxc 2 f1c 1 bxc 2 fk0 1 bxc 3 | 0 ; Atlantic/South_Georgia | -6rk 0 -5k0 0 |
   -2z3c5vk 1 | -5k0 ; Atlantic/St_Helena | -120 0 0 0 | -3uxdeu0 1 | 0 ; Atlantic/Stanley | -apo 0
   -b40 0 -8c0 1 -8c0 0 -5k0 1 | -3ao9j5o 1 -dbvxqc 2 cyk 1 e04 2 cyk 1 eis 2 cyk 1 e04 2 cyk 1 e04
   2 cyk 1 e04 2 73w 1 ub44 3 avw 4 g2k 3 adg 4 gl8 3 adg 2 g2o 1 aw4 2 g2k 1 aw4 2 g2k 1 aw4 2 g2k
   1 aw4 2 gl8 1 adg 2 gl8 1 aw4 2 g2k 1 aw4 2 g2k 1 aw4 2 g2k 1 aw4 2 g2k 1 aw4 2 gl8 1 aw4 2 g2k
   1 aw4 2 g2k 1 aw4 2 g2k 1 aw4 2 g2k 1 aw4 2 g2s 1 adg 2 h3w 1 9us 2 h3w 1 adg 2 gl8 1 adg 2 gl8
   1 adg 2 gl8 1 adg 2 gl8 1 adg 2 h3w 1 adg 2 gl8 1 adg 2 gl8 1 adg 3 | -8c0 ; Australia/Adelaide
   Australia/South | pnw 0 p00 0 qe0 0 t60 1 | -31qu5g4 1 -27qdzw 2 da2u 3 65c 2 im80 3 6g0 2 dhc 3
   dhc 2 e00 3 cyo 2 kqo0 3 8tc 2 i5c 3 9c0 2 hmo 3 9c0 2 hmo 3 9c0 2 hmo 3 9uo 2 hmo 3 9c0 2 hmo 3
   9c0 2 hmo 3 9c0 2 hmo 3 9c0 2 hmo 3 9c0 2 hmo 3 9uo 2 hmo 3 9c0 2 hmo 3 9c0 2 hmo 3 9c0 2 hmo 3
   adc 2 g2o 3 aw0 2 glc 3 aw0 2 glc 3 adc 2 glc 3 adc 2 glc 3 9c0 2 hmo 3 aw0 2 g2o 3 9uo 2 hmo 3
   adc 2 glc 3 aw0 2 g2o 3 beo 2 fk0 3 beo 2 fk0 3 beo 2 fk0 3 beo 2 g2o 3 aw0 2 g2o 3 aw0 2 g2o 3
   beo 2 fk0 3 beo 2 fk0 3 beo 2 g2o 3 aw0 2 g2o 3 beo 2 fk0 3 aw0 2 g2o 3 | qe0 t60 a 1 0 5k0 4 1
   0 8c0 ; Australia/Brisbane Australia/Queensland | sc8 0 rs0 0 uk0 1 | -31p8o3s 1 -bhbss8 2 65c 1
   im80 2 6g0 1 dhc 2 dhc 1 e00 2 cyo 1 kqo0 2 8tc 1 da2o 2 9c0 1 hmo 2 9c0 1 hmo 2 9c0 1 | rs0 ;
   Australia/Broken_Hill Australia/Yancowinna | q70 0 rs0 0 p00 0 qe0 0 t60 1 | -31qu4x0 1 -t9nr0 2
   20o4 3 da2u 4 65c 3 im80 4 6g0 3 dhc 4 dhc 3 e00 4 cyo 3 kqo0 4 8tc 3 i5c 4 9c0 3 hmo 4 9c0 3
   hmo 4 9c0 3 hmo 4 9uo 3 hmo 4 9c0 3 hmo 4 9c0 3 hmo 4 9c0 3 hmo 4 9c0 3 hmo 4 9c0 3 hmo 4 bxc 3
   fk0 4 9c0 3 hmo 4 9c0 3 hmo 4 9c0 3 hmo 4 adc 3 g2o 4 aw0 3 glc 4 aw0 3 glc 4 adc 3 glc 4 9c0 3
   hmo 4 9c0 3 hmo 4 9c0 3 hmo 4 9uo 3 hmo 4 9c0 3 hmo 4 9c0 3 hmo 4 beo 3 fk0 4 beo 3 fk0 4 beo 3
   fk0 4 beo 3 g2o 4 aw0 3 g2o 4 aw0 3 g2o 4 beo 3 fk0 4 beo 3 fk0 4 beo 3 g2o 4 aw0 3 g2o 4 beo 3
   fk0 4 aw0 3 g2o 4 | qe0 t60 a 1 0 5k0 4 1 0 8c0 ; Australia/Canberra Australia/Sydney
   Australia/ACT Australia/NSW | s04 0 rs0 0 uk0 1 | -31qu33w 1 -bfqds4 2 65c 1 im80 2 6g0 1 dhc 2
   dhc 1 e00 2 cyo 1 kqo0 2 8tc 1 i5c 2 9c0 1 hmo 2 9c0 1 hmo 2 9c0 1 hmo 2 9uo 1 hmo 2 9c0 1 hmo 2
   9c0 1 hmo 2 9c0 1 hmo 2 9c0 1 hmo 2 9c0 1 hmo 2 bxc 1 fk0 2 9c0 1 hmo 2 9c0 1 hmo 2 9c0 1 hmo 2
   adc 1 g2o 2 aw0 1 glc 2 aw0 1 glc 2 adc 1 glc 2 9c0 1 hmo 2 9c0 1 hmo 2 9c0 1 hmo 2 9uo 1 hmo 2
   9c0 1 hmo 2 9c0 1 hmo 2 beo 1 fk0 2 beo 1 fk0 2 beo 1 fk0 2 beo 1 g2o 2 aw0 1 beo 2 fk0 1 g2o 2
   beo 1 fk0 2 beo 1 fk0 2 beo 1 g2o 2 aw0 1 g2o 2 beo 1 fk0 2 aw0 1 g2o 2 | rs0 uk0 a 1 0 5k0 4 1
   0 8c0 ; Australia/Currie Australia/Hobart Australia/Tasmania | ra4 0 rs0 0 uk0 1 | -321qp5w 1
   -b03ee4 2 cyo 1 g2o 2 9c0 1 hmo 2 9c0 1 h5uo 2 6g0 1 dhc 2 dhc 1 e00 2 cyo 1 ho80 2 dhc 1 fk0 2
   9uo 1 h40 2 9uo 1 h40 2 adc 1 h40 2 8tc 1 i5c 2 9c0 1 hmo 2 9c0 1 hmo 2 9c0 1 hmo 2 9uo 1 hmo 2
   9c0 1 hmo 2 9c0 1 hmo 2 9c0 1 hmo 2 9c0 1 hmo 2 9c0 1 hmo 2 beo 1 g2o 2 aw0 1 g2o 2 9c0 1 hmo 2
   9c0 1 hmo 2 9c0 1 h40 2 aw0 1 glc 2 aw0 1 glc 2 adc 1 glc 2 adc 1 glc 2 beo 1 e00 2 cyo 1 e00 2
   cyo 1 e00 2 cyo 1 e00 2 cyo 1 e00 2 dhc 1 e00 2 cyo 1 e00 2 cyo 1 e00 2 cyo 1 e00 2 cyo 1 beo 2
   fk0 1 eio 2 cyo 1 e00 2 cyo 1 e00 2 cyo 1 e00 2 cyo 1 e00 2 dhc 1 dhc 2 cyo 1 eio 2 | rs0 uk0 a
   1 0 5k0 4 1 0 8c0 ; Australia/Darwin Australia/North | o88 0 p00 0 qe0 0 t60 1 | -31qu6vs 1
   -27qck8 2 da2u 3 65c 2 im80 3 6g0 2 dhc 3 dhc 2 e00 3 cyo 2 | qe0 ; Australia/Eucla | nv4 0 ob0
   0 r30 1 | -326fb8w 1 -b05944 2 65c 1 im80 2 6g0 1 dhc 2 dhc 1 nqio 2 9c0 1 6idc 2 9c0 1 5sg0 2
   7s0 1 b39c 2 8ao 1 g2o 2 beo 1 fk0 2 beo 1 | ob0 ; Australia/Lindeman | rl8 0 rs0 0 uk0 1 |
   -31p8ous 1 -bhbs18 2 65c 1 im80 2 6g0 1 dhc 2 dhc 1 e00 2 cyo 1 kqo0 2 8tc 1 da2o 2 9c0 1 hmo 2
   9c0 1 hmo 2 9c0 1 hmo 2 9uo 1 hmo 2 9c0 1 | rs0 ; Australia/Lord_Howe Australia/LHI | tgk 0 rs0
   0 t60 0 vy0 1 uk0 1 | -31qu1ng 1 -18x8f0k 2 hmu 3 9uk 2 hms 3 9bw 2 hms 3 9bw 2 hms 3 9bw 2 hms
   4 ada 2 g2q 4 avy 2 gle 4 avy 2 gle 4 ada 2 gle 4 9by 2 hmq 4 9by 2 hmq 4 9by 2 hmq 4 9um 2 hmq
   4 9by 2 hmq 4 9by 2 hmq 4 bem 2 fk2 4 bem 2 fk2 4 bem 2 fk2 4 bem 2 g2q 4 avy 2 beq 4 fjy 2 g2q
   4 bem 2 fk2 4 bem 2 fk2 4 bem 2 g2q 4 avy 2 g2q 4 bem 2 fk2 4 avy 2 g2q 4 | t60 uk0 a 1 0 5k0 4
   1 0 5k0 ; Australia/Melbourne Australia/Victoria | qug 0 rs0 0 uk0 1 | -31qu49k 1 -bfqcmg 2 65c
   1 im80 2 6g0 1 dhc 2 dhc 1 e00 2 cyo 1 kqo0 2 8tc 1 i5c 2 9c0 1 hmo 2 9c0 1 hmo 2 9c0 1 hmo 2
   9uo 1 hmo 2 9c0 1 hmo 2 9c0 1 hmo 2 9c0 1 hmo 2 9c0 1 hmo 2 9c0 1 hmo 2 9uo 1 hmo 2 9c0 1 hmo 2
   9c0 1 hmo 2 9c0 1 hmo 2 adc 1 g2o 2 aw0 1 g2o 2 beo 1 glc 2 adc 1 glc 2 adc 1 glc 2 9c0 1 hmo 2
   9c0 1 hmo 2 9uo 1 hmo 2 9c0 1 hmo 2 aw0 1 g2o 2 beo 1 fk0 2 beo 1 fk0 2 beo 1 fk0 2 beo 1 g2o 2
   aw0 1 beo 2 fk0 1 g2o 2 beo 1 fk0 2 beo 1 fk0 2 beo 1 g2o 2 aw0 1 g2o 2 beo 1 fk0 2 aw0 1 g2o 2
   | rs0 uk0 a 1 0 5k0 4 1 0 8c0 ; Australia/Perth Australia/West | lgc 0 m80 0 p00 1 | -326fdno 1
   -b058sc 2 65c 1 im80 2 6g0 1 dhc 2 dhc 1 nqio 2 9c0 1 6idc 2 9c0 1 5sg0 2 7s0 1 b39c 2 8ao 1 g2o
   2 beo 1 fk0 2 beo 1 | m80 ; CET MET | 2s0 0 5k0 1 | 4tzyw 1 bc4 0 elk 1 beo 0 fk0 1 beo 0 g6tc 1
   1y00 0 aw0 1 e00 0 dhc 1 dhc 0 dhc 1 cdc 0 nphc 1 cyo 0 e00 1 dhc 0 dhc 1 dhc 0 e00 1 cyo 0 dhc
   1 dhc 0 dhc 1 dhc 0 dhc 1 dhc 0 dhc 1 e00 0 dhc 1 dhc 0 dhc 1 dhc 0 dhc 1 dhc 0 dhc 1 dhc 0 dhc
   1 dhc 0 dhc 1 e00 0 dhc 1 dhc 0 dhc 1 dhc 0 dhc 1 dhc 0 dhc 1 dhc 0 dhc 1 dhc 0 e00 1 | 2s0 5k0
   3 5 0 5k0 a 5 0 8c0 ; CST6CDT | -go0 0 -dw0 1 | 4vfs0 1 fjw 0 bes 1 fjw 0 gr44 1 2qfw 0 g7us 1
   dh8 0 dhg 1 dh8 0 dhg 1 dh8 0 dhg 1 dh8 0 dhg 1 dzw 0 dhg 1 dh8 0 dhg 1 dh8 0 56s 1 lrw 0 8tg 1
   i58 0 dhg 1 dzw 0 cys 1 dzw 0 dhg 1 dh8 0 dhg 1 dh8 0 dhg 1 dh8 0 dhg 1 dh8 0 dhg 1 dzw 0 cys 1
   dzw 0 dhg 1 dh8 0 dhg 1 dh8 0 dhg 1 dh8 0 bxg 1 f18 0 bxg 1 fjw 0 bes 1 fjw 0 bes 1 fjw 0 bxg 1
   f18 0 bxg 1 f18 0 bxg 1 fjw 0 bes 1 fjw 0 bes 1 fjw 0 bxg 1 f18 0 bxg 1 f18 0 bxg 1 f18 0 bxg 1
   fjw 0 bes 1 fjw 0 bes 1 fjw 0 bxg 1 f18 0 bxg 1 f18 0 bxg 1 fjw 0 bes 1 fjw 0 bes 1 fjw 0 9us 1
   | -go0 -dw0 3 2 0 5k0 b 1 0 5k0 ; EET | 5k0 0 8c0 1 | 63s9w 1 cyo 0 e00 1 dhc 0 dhc 1 dhc 0 e00
   1 cyo 0 dhc 1 dhc 0 dhc 1 dhc 0 dhc 1 dhc 0 dhc 1 e00 0 dhc 1 dhc 0 dhc 1 dhc 0 dhc 1 dhc 0 dhc
   1 dhc 0 dhc 1 dhc 0 dhc 1 e00 0 dhc 1 dhc 0 dhc 1 dhc 0 dhc 1 dhc 0 dhc 1 dhc 0 dhc 1 dhc 0 e00
   1 | 5k0 8c0 3 5 0 8c0 a 5 0 b40 ; EST Etc/GMT+5 | -dw0 0 | | -dw0 ; EST5EDT | -dw0 0 -b40 1 |
   4vfrw 1 fjw 0 bes 1 fjw 0 gr44 1 2qfw 0 g7us 1 dh8 0 dhg 1 dh8 0 dhg 1 dh8 0 dhg 1 dh8 0 dhg 1
   dzw 0 dhg 1 dh8 0 dhg 1 dh8 0 56s 1 lrw 0 8tg 1 i58 0 dhg 1 dzw 0 cys 1 dzw 0 dhg 1 dh8 0 dhg 1
   dh8 0 dhg 1 dh8 0 dhg 1 dh8 0 dhg 1 dzw 0 cys 1 dzw 0 dhg 1 dh8 0 dhg 1 dh8 0 dhg 1 dh8 0 bxg 1
   f18 0 bxg 1 fjw 0 bes 1 fjw 0 bes 1 fjw 0 bxg 1 f18 0 bxg 1 f18 0 bxg 1 fjw 0 bes 1 fjw 0 bes 1
   fjw 0 bxg 1 f18 0 bxg 1 f18 0 bxg 1 f18 0 bxg 1 fjw 0 bes 1 fjw 0 bes 1 fjw 0 bxg 1 f18 0 bxg 1
   f18 0 bxg 1 fjw 0 bes 1 fjw 0 bes 1 fjw 0 9us 1 | -dw0 -b40 3 2 0 5k0 b 1 0 5k0 ; Etc/GMT
   Etc/GMT+0 Etc/GMT-0 Etc/GMT0 Etc/Greenwich Etc/UCT Etc/UTC Etc/Universal Etc/Zulu Factory GMT
   UTC GMT+0 GMT-0 GMT0 Greenwich UCT Universal Zulu | 0 0 | | 0 ; Etc/GMT+1 | -2s0 0 | | -2s0 ;
   Etc/GMT+10 HST | -rs0 0 | | -rs0 ; Etc/GMT+11 | -uk0 0 | | -uk0 ; Etc/GMT+12 | -xc0 0 | | -xc0 ;
   Etc/GMT+2 | -5k0 0 | | -5k0 ; Etc/GMT+3 | -8c0 0 | | -8c0 ; Etc/GMT+4 | -b40 0 | | -b40 ;
   Etc/GMT+6 | -go0 0 | | -go0 ; Etc/GMT+7 MST | -jg0 0 | | -jg0 ; Etc/GMT+8 | -m80 0 | | -m80 ;
   Etc/GMT+9 | -p00 0 | | -p00 ; Etc/GMT-1 | 2s0 0 | | 2s0 ; Etc/GMT-10 | rs0 0 | | rs0 ;
   Etc/GMT-11 | uk0 0 | | uk0 ; Etc/GMT-12 | xc0 0 | | xc0 ; Etc/GMT-13 | 1040 0 | | 1040 ;
   Etc/GMT-14 | 12w0 0 | | 12w0 ; Etc/GMT-2 | 5k0 0 | | 5k0 ; Etc/GMT-3 | 8c0 0 | | 8c0 ; Etc/GMT-4
   | b40 0 | | b40 ; Etc/GMT-5 | dw0 0 | | dw0 ; Etc/GMT-6 | go0 0 | | go0 ; Etc/GMT-7 | jg0 0 | |
   jg0 ; Etc/GMT-8 | m80 0 | | m80 ; Etc/GMT-9 | p00 0 | | p00 ; Europe/Amsterdam | wk 0 3ok 1 3pc
   1 xc 0 5k0 1 2s0 0 | -3ctzcvg 1 bbw 0 elo 1 beo 0 eio 1 dhc 0 e00 1 cyo 0 e00 1 cyo 0 e00 1 cyo
   0 deo 1 eio 0 hhc 1 9hc 0 cyo 1 e00 0 i00 1 8yo 0 gio 1 ag0 0 glc 1 adc 0 gqo 1 aqo 0 gao 1 ao0
   0 gdc 1 alc 0 gg0 1 aio 0 h40 1 9uo 0 go0 1 atc 0 g80 1 aqo 0 gao 1 ao0 0 gg0 1 aio 0 h1c 1 2yc
   2 -4uaz8 3 glc 2 adc 3 go0 2 atc 3 gd4 4 -1aarpc 5 aw0 4 e00 5 dhc 4 dhc 5 dhc 4 cdc 5 nphc 4
   cyo 5 e00 4 dhc 5 dhc 4 dhc 5 e00 4 cyo 5 dhc 4 dhc 5 dhc 4 dhc 5 dhc 4 dhc 5 dhc 4 e00 5 dhc 4
   dhc 5 dhc 4 dhc 5 dhc 4 dhc 5 dhc 4 dhc 5 dhc 4 dhc 5 dhc 4 e00 5 dhc 4 dhc 5 dhc 4 dhc 5 dhc 4
   dhc 5 dhc 4 dhc 5 dhc 4 dhc 5 e00 4 | 2s0 5k0 3 5 0 5k0 a 5 0 8c0 ; Europe/Andorra | a4 0 0 0
   2s0 0 5k0 1 | -34tyutw 1 -nvgqy4 2 sxms 3 dhc 2 dhc 3 dhc 2 dhc 3 dhc 2 dhc 3 dhc 2 dhc 3 dhc 2
   dhc 3 e00 2 dhc 3 dhc 2 dhc 3 dhc 2 dhc 3 dhc 2 dhc 3 dhc 2 dhc 3 dhc 2 e00 3 | 2s0 5k0 3 5 0
   5k0 a 5 0 8c0 ; Europe/Astrakhan | 8wc 0 8c0 0 b40 0 dw0 1 b40 1 | -3h0a8vo 1 -37bv8c 2 125uk 3
   djw 2 dhg 3 djw 2 dhg 3 djw 2 dk4 3 dhk 2 dhc 3 dhc 2 dhc 3 dhc 2 dhc 3 dhc 2 dhc 3 dhc 2 dhc 4
   dhg 1 dhc 4 e00 1 dhc 2 qyk 4 dhg 1 dhc 4 dhc 1 dhc 4 dhc 1 dhc 4 dhc 1 e00 4 fk0 1 beo 4 fk0 1
   beo 4 fk0 1 beo 4 g2o 1 aw0 4 g2o 1 aw0 4 g2o 1 beo 4 fk0 1 beo 4 fk0 1 beo 4 g2o 1 aw0 4 g2o 1
   aw0 4 g2o 1 aw0 4 g2o 1 beo 4 fk0 1 beo 4 fk0 1 beo 4 g2o 1 aw0 2 2oyk 1 12dg 2 | b40 ;
   Europe/Athens | 4e4 0 5k0 0 8c0 1 5k0 1 2s0 0 | -3cyi83k 1 -8bjasg 2 458 1 6glg 2 1p8 3 14ts 4
   ayg 3 dx8 4 dk4 1 66yk 2 96k 1 gv44 2 gw0 1 a5k 2 dhc 1 cyo 2 d1c 1 dxc 2 cys 1 e0o 2 dds 1 dp8
   2 dbw 1 dhs 2 dhc 1 dhc 2 dhc 1 dhc 2 dhc 1 dhc 2 e00 1 dhc 2 dhc 1 dhc 2 dhc 1 dhc 2 dhc 1 dhc
   2 dhc 1 dhc 2 dhc 1 dhc 2 e00 1 dhc 2 dhc 1 dhc 2 dhc 1 dhc 2 dhc 1 dhc 2 dhc 1 dhc 2 dhc 1 e00
   2 | 5k0 8c0 3 5 0 8c0 a 5 0 b40 ; Europe/Belfast Europe/London GB GB-Eire | -23 0 0 0 2s0 1 5k0
   1 2s0 0 | -2d4lb63 1 -zqf9hx 2 9uo 1 e00 2 c00 1 dxc 2 e2o 1 deo 2 dk0 1 deo 2 fmo 1 buo 2 dk0 1
   cw0 2 eio 1 eio 2 aw0 1 fk0 2 bxc 1 fk0 2 cg0 1 eio 2 cg0 1 e00 2 cyo 1 f1c 2 cg0 1 eio 2 cg0 1
   e00 2 cyo 1 eio 2 cg0 1 eio 2 cg0 1 e00 2 dhc 1 eio 2 cg0 1 e00 2 cyo 1 eio 2 cg0 1 eio 2 cg0 1
   e00 2 cyo 1 eio 2 g2o 1 79c 2 w58 3 79c 2 hmo 3 9c0 2 hmo 3 9uo 2 h40 3 cg0 2 elc 3 7pc 2 684 1
   e00 2 cyo 1 bxc 2 22k 3 8tc 2 684 1 9uo 2 h40 1 beo 2 fk0 1 cg0 2 e00 1 cyo 2 e00 1 dhc 2 e00 1
   cyo 2 cg0 1 e00 2 cyo 1 eio 2 cg0 1 f1c 2 cg0 1 e00 2 cyo 1 eio 2 cg0 1 eio 2 cg0 1 e00 2 cyo 1
   cyo 2 g2o 1 aw0 2 g2o 1 beo 2 fk0 1 aw0 2 g2o 1 aw0 2 g2o 1 aw0 2 g2o 1 aw0 2 glc 1 8ao 2 ino 4
   29f0 1 adc 2 glc 1 adc 2 glc 1 adc 2 glc 1 adc 2 glc 1 aw0 2 g2o 1 aw0 2 g2o 1 aw0 2 glc 1 adc 2
   glc 1 adc 2 glc 1 bek 2 fk0 1 beo 2 fk0 1 beo 2 fk0 1 beo 2 g2o 1 beo 2 fk0 1 beo 2 fk0 1 beo 2
   fk0 1 beo 2 fk0 1 beo 2 g2o 1 aw0 2 g2o 1 beo 2 fk0 1 beo 2 fk0 1 beo 2 fk0 1 beo 2 fk0 1 beo 2
   fk0 1 bxc 2 | 0 2s0 3 5 0 2s0 a 5 0 5k0 ; Europe/Belgrade Europe/Podgorica | 3so 0 2s0 0 5k0 1 |
   -2vyklzc 1 -twhnko 2 15n0 1 aw0 2 e00 1 dhc 2 dhc 1 g5c 2 9pc 1 s79c 2 dhc 1 dhc 2 e00 1 dhc 2
   dhc 1 dhc 2 dhc 1 dhc 2 dhc 1 dhc 2 dhc 1 dhc 2 dhc 1 dhc 2 e00 1 dhc 2 dhc 1 dhc 2 dhc 1 dhc 2
   dhc 1 dhc 2 dhc 1 dhc 2 dhc 1 e00 2 | 2s0 5k0 3 5 0 5k0 a 5 0 8c0 ; Europe/Berlin | 2h4 0 2s0 0
   5k0 1 8c0 1 | -30sc7aw 1 -c1n0x4 2 bc4 1 elk 2 beo 1 fk0 2 beo 1 g6tc 2 1y00 1 aw0 2 e00 1 dhc 2
   dhc 1 dhc 2 3uk 3 940 2 42s 1 aw0 2 d1c 1 des 2 2l8 3 3mk 2 79g 1 eio 2 cg0 1 e00 2 cyo 1 mxhc 2
   cyo 1 dhc 2 dhc 1 dhc 2 dhc 1 dhc 2 dhc 1 dhc 2 e00 1 dhc 2 dhc 1 dhc 2 dhc 1 dhc 2 dhc 1 dhc 2
   dhc 1 dhc 2 dhc 1 dhc 2 e00 1 dhc 2 dhc 1 dhc 2 dhc 1 dhc 2 dhc 1 dhc 2 dhc 1 dhc 2 dhc 1 e00 2
   | 2s0 5k0 3 5 0 5k0 a 5 0 8c0 ; Europe/Bratislava Europe/Prague | 2o8 0 2s0 0 5k0 1 0 0 |
   -3005drs 1 -cttug8 2 bc4 1 elk 2 beo 1 fk0 2 beo 1 g6tc 2 1y00 1 aw0 2 e00 1 dhc 2 dhc 1 dhc 2
   dhc 1 g2o 2 bc0 1 45g 3 680 1 458 2 cg0 1 eio 2 cg0 1 dxc 2 d1c 1 m600 2 dhc 1 e00 2 cyo 1 dhc 2
   dhc 1 dhc 2 dhc 1 dhc 2 dhc 1 dhc 2 e00 1 dhc 2 dhc 1 dhc 2 dhc 1 dhc 2 dhc 1 dhc 2 dhc 1 dhc 2
   dhc 1 dhc 2 e00 1 dhc 2 dhc 1 dhc 2 dhc 1 dhc 2 dhc 1 dhc 2 dhc 1 dhc 2 dhc 1 e00 2 | 2s0 5k0 3
   5 0 5k0 a 5 0 8c0 ; Europe/Brussels | t6 0 0 0 2s0 0 5k0 1 2s0 1 | 4byps 1 gx9c 2 13zw 3 bc0 2
   elk 3 beo 2 fk0 3 beo 2 46g 1 86o 4 g2o 1 9uo 4 io0 1 aio 4 go0 1 b6o 4 eio 1 eio 4 cg0 1 cyo 4
   e00 1 dhc 4 dhc 1 eio 4 cg0 1 e00 4 cyo 1 eio 4 cz0 1 eio 4 cg0 1 e00 4 cyo 1 eio 4 cg0 1 dhc 4
   dhc 1 cyo 4 eio 1 dhc 4 dhc 1 cyo 4 e00 1 eio 4 cg0 1 dhc 4 dhc 1 cyo 4 e00 1 eio 4 g2o 1 79c 4
   6ao 3 1ud8 2 aw0 3 e00 2 dhc 3 cdc 2 elc 3 cdc 2 i5c 3 ag0 2 mww0 3 cyo 2 e00 3 dhc 2 dhc 3 dhc
   2 e00 3 cyo 2 dhc 3 dhc 2 dhc 3 dhc 2 dhc 3 dhc 2 dhc 3 e00 2 dhc 3 dhc 2 dhc 3 dhc 2 dhc 3 dhc
   2 dhc 3 dhc 2 dhc 3 dhc 2 dhc 3 e00 2 dhc 3 dhc 2 dhc 3 dhc 2 dhc 3 dhc 2 dhc 3 dhc 2 dhc 3 dhc
   2 e00 3 | 2s0 5k0 3 5 0 5k0 a 5 0 8c0 ; Europe/Bucharest | 4u0 0 5k0 0 8c0 1 | -3ks38y0 1 -fj8m0
   2 9xc 1 dhc 2 dhc 1 e00 2 dhc 1 dhc 2 dhc 1 dhc 2 dhc 1 dhc 2 dhc 1 dhc 2 dhc 1 dhc 2 dhc 1 tstc
   2 9bw 1 e00 2 cys 1 dhk 2 dhc 1 dhc 2 dhc 1 dhc 2 dhc 1 dhc 2 e00 1 dhc 2 dhc 1 dhc 2 dhc 1 dhc
   2 dhc 1 dhc 2 dhc 1 dhc 2 dhc 1 dhc 2 e00 1 dh4 2 dhc 1 dhc 2 dhc 1 dhc 2 dhc 1 dhc 2 dh8 1 dhg
   2 dh8 1 e04 2 fjw 1 bf4 2 | 5k0 8c0 3 5 0 8c0 a 5 0 b40 ; Europe/Budapest | 3j8 0 2s0 0 5k0 1 |
   -2ziyu8s 1 -db0dz8 2 bc4 1 elk 2 beo 1 fk0 2 beo 1 fmo 2 bc0 1 f1c 2 cg0 1 ffx0 2 16gc 1 aw0 2
   e00 1 dhc 2 dhc 1 fp0 2 dk4 1 b48 2 e2k 1 des 2 dhc 1 dhc 2 dhc 1 e00 2 cyo 1 3hh4 2 9uk 1 h4c 2
   9uo 1 i5c 2 8tc 1 i5c 2 8tc 1 gx94 2 cyo 1 dhc 2 dhc 1 dhc 2 dhc 1 dhc 2 dhc 1 dhk 2 e00 1 dhc 2
   dhc 1 dhc 2 dhc 1 dhc 2 dhc 1 dhc 2 dhc 1 dhc 2 dhc 1 dhc 2 e00 1 dhc 2 dhc 1 dhc 2 dhc 1 dhc 2
   dhc 1 dhc 2 dhc 1 dhc 2 dhc 1 e00 2 | 2s0 5k0 3 5 0 5k0 a 5 0 8c0 ; Europe/Busingen
   Europe/Zurich | 1kw 0 1dm 0 2s0 0 5k0 1 | -2g28yv4 1 -lc05ja 2 -ohmxdm 3 beo 2 fk0 3 beo 2 sx44
   3 dhc 2 dhc 3 dhc 2 dhc 3 dhc 2 dhc 3 e00 2 dhc 3 dhc 2 dhc 3 dhc 2 dhc 3 dhc 2 dhc 3 dhc 2 dhc
   3 dhc 2 dhc 3 e00 2 dhc 3 dhc 2 dhc 3 dhc 2 dhc 3 dhc 2 dhc 3 dhc 2 dhc 3 dhc 2 e00 3 | 2s0 5k0
   3 5 0 5k0 a 5 0 8c0 ; Europe/Chisinau Europe/Tiraspol | 5c8 0 5bo 0 4u0 0 5k0 0 8c0 1 5k0 1 2s0
   0 8c0 0 b40 1 | -2tvf0fs 1 -jw96ok 2 -70f1to 3 -fj8m0 4 9xc 3 dhc 4 dhc 3 e00 4 dhc 3 dhc 4 dhc
   3 dhc 4 dhc 3 dhc 4 dhc 3 dhc 4 dhc 3 dhc 4 dhc 3 nmo 4 ovw 5 z1s 6 aw0 5 e00 6 dhc 5 al0 7 riak
   8 djw 7 dhg 8 djw 7 dhg 8 djw 7 dk4 8 dhk 7 dhc 8 dhc 7 dhc 8 dhc 7 dhc 8 dhc 7 dhc 8 dhc 7 dhc
   8 dhc 7 dhc 8 33w 4 aw8 3 dhc 4 dhc 3 dh4 4 dh8 3 dhg 4 dh8 3 dhg 4 dh8 3 dhg 4 dh8 3 e04 4 fjw
   3 bf0 4 fk0 3 beo 4 fk0 3 beo 4 g2o 3 aw0 4 g2o 3 aw0 4 g2o 3 beo 4 fk0 3 beo 4 fk0 3 beo 4 g2o
   3 aw0 4 g2o 3 aw0 4 g2o 3 aw0 4 g2o 3 beo 4 fk0 3 beo 4 fk0 3 beo 4 g2o 3 aw0 4 g2o 3 aw0 4 g2o
   3 beo 4 fk0 3 beo 4 fk0 3 beo 4 fk0 3 beo 4 g2o 3 aw0 4 g2o 3 aw0 4 g2o 3 beo 4 fk0 3 beo 4 fk0
   3 beo 4 g2o 3 aw4 4 | 5k0 8c0 3 5 0 8c0 a 5 0 b40 ; Europe/Copenhagen | 2bw 0 2s0 0 5k0 1 |
   -316hgs4 1 -bo7orw 2 aak 1 hr1k 2 1uqw 1 aw0 2 e00 1 dhc 2 dhc 1 dhc 2 a00 1 j6o 2 940 1 i5c 2
   79c 1 k80 2 6qo 1 nslc 2 cyo 1 dhc 2 dhc 1 dhc 2 dhc 1 dhc 2 dhc 1 dhc 2 e00 1 dhc 2 dhc 1 dhc 2
   dhc 1 dhc 2 dhc 1 dhc 2 dhc 1 dhc 2 dhc 1 dhc 2 e00 1 dhc 2 dhc 1 dhc 2 dhc 1 dhc 2 dhc 1 dhc 2
   dhc 1 dhc 2 dhc 1 e00 2 | 2s0 5k0 3 5 0 5k0 a 5 0 8c0 ; Europe/Dublin Eire | -169 0 1lr 1 0 0
   2s0 1 2s0 0 | -3cv0lu9 1 9uo 2 -9pytr 3 c00 2 dxc 3 e2o 2 deo 3 dk0 2 deo 3 fmo 2 buo 3 dk0 2
   cw0 3 eio 2 eio 3 aw0 2 fk0 3 bxc 2 fk0 3 cg0 2 eio 3 cg0 2 e00 3 cyo 2 f1c 3 cg0 2 eio 3 cg0 2
   e00 3 cyo 2 eio 3 cg0 2 eio 3 cg0 2 e00 3 dhc 2 eio 3 cg0 2 e00 3 cyo 2 eio 3 cg0 2 eio 3 cg0 2
   e00 3 cyo 2 eio 3 g2o 2 79c 3 4yw0 2 bxc 3 h40 2 cg0 3 eio 2 beo 3 fk0 2 cg0 3 e00 2 cyo 3 e00 2
   dhc 3 e00 2 cyo 3 cg0 2 e00 3 cyo 2 eio 3 cg0 2 f1c 3 cg0 2 e00 3 cyo 2 eio 3 cg0 2 eio 3 cg0 2
   e00 3 cyo 2 cyo 3 g2o 2 aw0 3 g2o 2 beo 3 fk0 2 aw0 3 g2o 2 aw0 3 g2o 2 aw0 3 g2o 2 aw0 3 glc 2
   8ao 3 ino 4 29f0 2 adc 3 glc 2 adc 3 glc 2 adc 3 glc 2 adc 3 glc 2 aw0 3 g2o 2 aw0 3 g2o 2 aw0 3
   glc 2 adc 3 glc 2 adc 3 glc 2 bek 3 fk0 2 beo 3 fk0 2 beo 3 fk0 2 beo 3 g2o 2 beo 3 fk0 2 beo 3
   fk0 2 beo 3 fk0 2 beo 3 fk0 2 beo 3 g2o 2 aw0 3 g2o 2 beo 3 fk0 2 beo 3 fk0 2 beo 3 fk0 2 beo 3
   fk0 2 beo 3 fk0 2 bxc 3 | 0 2s0 3 5 0 2s0 a 5 0 5k0 ; Europe/Gibraltar | -zo 0 0 0 2s0 1 5k0 1
   2s0 0 | -2u6fhfo 1 -iol38c 2 9uo 1 e00 2 c00 1 dxc 2 e2o 1 deo 2 dk0 1 deo 2 fmo 1 buo 2 dk0 1
   cw0 2 eio 1 eio 2 aw0 1 fk0 2 bxc 1 fk0 2 cg0 1 eio 2 cg0 1 e00 2 cyo 1 f1c 2 cg0 1 eio 2 cg0 1
   e00 2 cyo 1 eio 2 cg0 1 eio 2 cg0 1 e00 2 dhc 1 eio 2 cg0 1 e00 2 cyo 1 eio 2 cg0 1 eio 2 cg0 1
   e00 2 cyo 1 eio 2 g2o 1 79c 2 w58 3 79c 2 hmo 3 9c0 2 hmo 3 9uo 2 h40 3 cg0 2 elc 3 7pc 2 684 1
   e00 2 cyo 1 bxc 2 22k 3 8tc 2 684 1 9uo 2 h40 1 beo 2 fk0 1 cg0 2 e00 1 cyo 2 e00 1 dhc 2 e00 1
   cyo 2 cg0 1 e00 2 cyo 1 eio 2 cg0 1 f1c 2 cg0 1 e00 4 ir3w 3 dhc 4 dhc 3 dhc 4 dhc 3 e00 4 dhc 3
   dhc 4 dhc 3 dhc 4 dhc 3 dhc 4 dhc 3 dhc 4 dhc 3 dhc 4 dhc 3 e00 4 dhc 3 dhc 4 dhc 3 dhc 4 dhc 3
   dhc 4 dhc 3 dhc 4 dhc 3 dhc 4 e00 3 | 2s0 5k0 3 5 0 5k0 a 5 0 8c0 ; Europe/Guernsey | -gx 0 0 0
   2s0 1 5k0 1 2s0 0 | -3bc2nkx 1 -1ixx33 2 9uo 1 e00 2 c00 1 dxc 2 e2o 1 deo 2 dk0 1 deo 2 fmo 1
   buo 2 dk0 1 cw0 2 eio 1 eio 2 aw0 1 fk0 2 bxc 1 fk0 2 cg0 1 eio 2 cg0 1 e00 2 cyo 1 f1c 2 cg0 1
   eio 2 cg0 1 e00 2 cyo 1 eio 2 cg0 1 eio 2 cg0 1 e00 2 dhc 1 eio 2 cg0 1 e00 2 cyo 1 eio 2 cg0 1
   eio 2 cg0 1 e00 2 cyo 1 eio 2 g2o 1 79c 2 9h0 3 1r6w 4 aw0 3 e00 4 dhc 3 dhc 4 dhc 3 7pc 2 684 1
   e00 2 cyo 1 bxc 2 22k 3 8tc 2 684 1 9uo 2 h40 1 beo 2 fk0 1 cg0 2 e00 1 cyo 2 e00 1 dhc 2 e00 1
   cyo 2 cg0 1 e00 2 cyo 1 eio 2 cg0 1 f1c 2 cg0 1 e00 2 cyo 1 eio 2 cg0 1 eio 2 cg0 1 e00 2 cyo 1
   cyo 2 g2o 1 aw0 2 g2o 1 beo 2 fk0 1 aw0 2 g2o 1 aw0 2 g2o 1 aw0 2 g2o 1 aw0 2 glc 1 8ao 2 ino 4
   29f0 1 adc 2 glc 1 adc 2 glc 1 adc 2 glc 1 adc 2 glc 1 aw0 2 g2o 1 aw0 2 g2o 1 aw0 2 glc 1 adc 2
   glc 1 adc 2 glc 1 bek 2 fk0 1 beo 2 fk0 1 beo 2 fk0 1 beo 2 g2o 1 beo 2 fk0 1 beo 2 fk0 1 beo 2
   fk0 1 beo 2 fk0 1 beo 2 g2o 1 aw0 2 g2o 1 beo 2 fk0 1 beo 2 fk0 1 beo 2 fk0 1 beo 2 fk0 1 beo 2
   fk0 1 bxc 2 | 0 2s0 3 5 0 2s0 a 5 0 5k0 ; Europe/Helsinki Europe/Mariehamn | 4md 0 5k0 0 8c0 1 |
   -3ffwqhn 1 -ax3tqd 2 dmo 1 sx6w 2 dhc 1 dhc 2 dhc 1 dhg 2 dhc 1 dhc 2 e00 1 dhc 2 dhc 1 dhc 2
   dhc 1 dhc 2 dhc 1 dhc 2 dhc 1 dhc 2 dhc 1 dhc 2 e00 1 dhc 2 dhc 1 dhc 2 dhc 1 dhc 2 dhc 1 dhc 2
   dhc 1 dhc 2 dhc 1 e00 2 | 5k0 8c0 3 5 0 8c0 a 5 0 b40 ; Europe/Isle_of_Man | -tv 0 0 0 2s0 1 5k0
   1 2s0 0 | -2vkbrxv 1 -haosq5 2 9uo 1 e00 2 c00 1 dxc 2 e2o 1 deo 2 dk0 1 deo 2 fmo 1 buo 2 dk0 1
   cw0 2 eio 1 eio 2 aw0 1 fk0 2 bxc 1 fk0 2 cg0 1 eio 2 cg0 1 e00 2 cyo 1 f1c 2 cg0 1 eio 2 cg0 1
   e00 2 cyo 1 eio 2 cg0 1 eio 2 cg0 1 e00 2 dhc 1 eio 2 cg0 1 e00 2 cyo 1 eio 2 cg0 1 eio 2 cg0 1
   e00 2 cyo 1 eio 2 g2o 1 79c 2 w58 3 79c 2 hmo 3 9c0 2 hmo 3 9uo 2 h40 3 cg0 2 elc 3 7pc 2 684 1
   e00 2 cyo 1 bxc 2 22k 3 8tc 2 684 1 9uo 2 h40 1 beo 2 fk0 1 cg0 2 e00 1 cyo 2 e00 1 dhc 2 e00 1
   cyo 2 cg0 1 e00 2 cyo 1 eio 2 cg0 1 f1c 2 cg0 1 e00 2 cyo 1 eio 2 cg0 1 eio 2 cg0 1 e00 2 cyo 1
   cyo 2 g2o 1 aw0 2 g2o 1 beo 2 fk0 1 aw0 2 g2o 1 aw0 2 g2o 1 aw0 2 g2o 1 aw0 2 glc 1 8ao 2 ino 4
   29f0 1 adc 2 glc 1 adc 2 glc 1 adc 2 glc 1 adc 2 glc 1 aw0 2 g2o 1 aw0 2 g2o 1 aw0 2 glc 1 adc 2
   glc 1 adc 2 glc 1 bek 2 fk0 1 beo 2 fk0 1 beo 2 fk0 1 beo 2 g2o 1 beo 2 fk0 1 beo 2 fk0 1 beo 2
   fk0 1 beo 2 fk0 1 beo 2 g2o 1 aw0 2 g2o 1 beo 2 fk0 1 beo 2 fk0 1 beo 2 fk0 1 beo 2 fk0 1 beo 2
   fk0 1 bxc 2 | 0 2s0 3 5 0 2s0 a 5 0 5k0 ; Europe/Jersey | -e2 0 0 0 2s0 1 5k0 1 2s0 0 | 4gk3k 1
   dhd4 2 9uo 1 e00 2 c00 1 dxc 2 e2o 1 deo 2 dk0 1 deo 2 fmo 1 buo 2 dk0 1 cw0 2 eio 1 eio 2 aw0 1
   fk0 2 bxc 1 fk0 2 cg0 1 eio 2 cg0 1 e00 2 cyo 1 f1c 2 cg0 1 eio 2 cg0 1 e00 2 cyo 1 eio 2 cg0 1
   eio 2 cg0 1 e00 2 dhc 1 eio 2 cg0 1 e00 2 cyo 1 eio 2 cg0 1 eio 2 cg0 1 e00 2 cyo 1 eio 2 g2o 1
   79c 2 9h0 3 1r6w 4 aw0 3 e00 4 dhc 3 dhc 4 dhc 3 7pc 2 684 1 e00 2 cyo 1 bxc 2 22k 3 8tc 2 684 1
   9uo 2 h40 1 beo 2 fk0 1 cg0 2 e00 1 cyo 2 e00 1 dhc 2 e00 1 cyo 2 cg0 1 e00 2 cyo 1 eio 2 cg0 1
   f1c 2 cg0 1 e00 2 cyo 1 eio 2 cg0 1 eio 2 cg0 1 e00 2 cyo 1 cyo 2 g2o 1 aw0 2 g2o 1 beo 2 fk0 1
   aw0 2 g2o 1 aw0 2 g2o 1 aw0 2 g2o 1 aw0 2 glc 1 8ao 2 ino 4 29f0 1 adc 2 glc 1 adc 2 glc 1 adc 2
   glc 1 adc 2 glc 1 aw0 2 g2o 1 aw0 2 g2o 1 aw0 2 glc 1 adc 2 glc 1 adc 2 glc 1 bek 2 fk0 1 beo 2
   fk0 1 beo 2 fk0 1 beo 2 g2o 1 beo 2 fk0 1 beo 2 fk0 1 beo 2 fk0 1 beo 2 fk0 1 beo 2 g2o 1 aw0 2
   g2o 1 beo 2 fk0 1 beo 2 fk0 1 beo 2 fk0 1 beo 2 fk0 1 beo 2 fk0 1 bxc 2 | 0 2s0 3 5 0 2s0 a 5 0
   5k0 ; Europe/Kaliningrad | 3so 0 2s0 0 5k0 1 5k0 0 8c0 1 8c0 0 b40 1 | -30sc5zc 1 -c1n28o 2 bc4
   1 elk 2 beo 1 fk0 2 beo 1 g6tc 2 1y00 1 aw0 2 e00 1 dhc 2 dhc 1 dhc 2 l0 3 1eo 4 drw 3 bms 5
   qaik 6 djw 5 dhg 6 djw 5 dhg 6 djw 5 dk4 6 dhk 5 dhc 6 dhc 5 dhc 6 dhc 5 dhc 6 dhc 5 dhc 6 dhc 5
   dhc 4 dhg 3 dhc 4 e00 3 dhc 4 dhc 3 dhc 4 dhc 3 dhc 4 dhc 3 dhc 4 dhc 3 dhc 4 dhc 3 e00 4 fk0 3
   beo 4 fk0 3 beo 4 fk0 3 beo 4 g2o 3 aw0 4 g2o 3 aw0 4 g2o 3 beo 4 fk0 3 beo 4 fk0 3 beo 4 g2o 3
   aw0 4 g2o 3 aw0 4 g2o 3 aw0 4 g2o 3 beo 4 fk0 3 beo 4 fk0 3 beo 4 g2o 3 aw0 5 2oyk 3 | 5k0 ;
   Europe/Kirov | 97c 0 8c0 0 b40 0 dw0 1 b40 1 | 4wdls 1 88vo 2 125uk 3 djw 2 dhg 3 djw 2 dhg 3
   djw 2 dk4 3 dhk 2 dhc 3 dhc 2 dhc 3 dhc 2 dhc 3 dhc 2 dhc 3 dhc 2 dhc 4 dhg 1 dhc 4 e00 1 dhc 2
   qyk 4 dhg 1 dhc 4 dhc 1 dhc 4 dhc 1 dhc 4 dhc 1 e00 4 fk0 1 beo 4 fk0 1 beo 4 fk0 1 beo 4 g2o 1
   aw0 4 g2o 1 aw0 4 g2o 1 beo 4 fk0 1 beo 4 fk0 1 beo 4 g2o 1 aw0 4 g2o 1 aw0 4 g2o 1 aw0 4 g2o 1
   beo 4 fk0 1 beo 4 fk0 1 beo 4 g2o 1 aw0 2 2oyk 1 | 8c0 ; Europe/Kyiv Europe/Uzhgorod
   Europe/Zaporozhye Europe/Kiev | 5ng 0 5k0 0 8c0 0 5k0 1 2s0 0 b40 1 8c0 1 | -3h0c6sk 1 -37a03g 2
   8gd8 3 u8g 4 aw0 3 e00 4 2fs 2 s3x4 5 djw 2 dhg 5 djw 2 dhg 5 djw 2 dk4 5 dhk 2 dhc 5 dhc 2 dhc
   5 dhc 2 dhc 5 dhc 2 dhc 5 dhc 2 dhc 5 dhc 2 dhc 5 798 6 xpk 1 dhc 6 dhc 1 dhc 6 dhc 1 dhc 6 dhc
   1 dhc 6 dhc 1 e00 6 fk4 1 | 5k0 8c0 3 5 0 8c0 a 5 0 b40 ; Europe/Lisbon Portugal | -1p9 0 0 0
   2s0 1 5k0 1 2s0 0 | 4qqsg 1 3cqk 2 a2s 1 8w0 2 gvw 1 a5g 2 gvw 1 a5g 2 gvw 1 a84 2 gvw 1 a5g 2
   gvw 1 1vs0 2 co0 1 15hc 2 cg0 1 e00 2 cyo 1 eio 2 cyo 1 eio 2 cg0 1 15hc 2 cg0 1 dhc 2 dhc 1
   14yo 2 dhc 1 cyo 2 e00 1 eio 2 cg0 1 dhc 2 dhc 1 cyo 2 e00 1 eio 2 g2o 1 79c 2 gqo 1 dc0 2 dk0 1
   buo 2 33w 3 8ao 2 56s 1 adc 2 2l8 3 9uo 2 4o4 1 9uo 2 33w 3 9c0 2 4o4 1 9uo 2 33w 3 9c0 2 4o4 1
   bxc 2 dhc 1 dho 2 dhc 1 dhc 2 dhc 1 dhc 2 dhc 1 dhc 2 dhc 1 dhc 2 e00 1 dhc 2 dhc 1 dhc 2 dhc 1
   dhc 2 dhc 1 dhc 2 dhc 1 dhc 2 e00 1 dhc 2 dhc 1 dhc 2 dhc 1 dhc 2 dhc 1 dhc 2 dhc 1 dhc 2 dhc 1
   dhc 2 e00 1 dhc 2 dhc 1 dhc 2 dhc 1 dhc 2 dhc 1 dhc 2 dhc 4 7i54 1 dhc 2 dhc 1 e04 2 dhc 1 dhc 2
   dhc 1 e00 2 cyo 1 dh8 2 dhc 1 dhc 2 dhc 1 dhc 2 dhc 1 dhc 2 e00 1 dhc 2 dhc 1 dhg 2 dhc 1 dhc 2
   dhc 1 dhc 2 dhc 1 dhc 2 dhc 1 dhc 2 e00 1 dhc 2 dhc 1 dhc 2 dhc 4 dhc 3 dhc 4 dhc 3 dhc 4 dhc 3
   dhc 4 e00 2 | 0 2s0 3 5 0 2s0 a 5 0 5k0 ; Europe/Ljubljana | 2os 0 2s0 0 5k0 1 | -2vykn38 1
   -twhmgs 2 15n0 1 aw0 2 e00 1 dhc 2 dhc 1 dhc 2 cdc 1 s79c 2 dhc 1 dhc 2 e00 1 dhc 2 dhc 1 dhc 2
   dhc 1 dhc 2 dhc 1 dhc 2 dhc 1 dhc 2 dhc 1 dhc 2 e00 1 dhc 2 dhc 1 dhc 2 dhc 1 dhc 2 dhc 1 dhc 2
   dhc 1 dhc 2 dhc 1 e00 2 | 2s0 5k0 3 5 0 5k0 a 5 0 8c0 ; Europe/Luxembourg | 150 0 2s0 0 5k0 1 0
   0 2s0 1 | -36m43b0 1 -68l290 2 aas 1 fjw 2 ag4 1 fk8 2 beo 1 56g 3 76o 4 g30 3 9uc 4 io8 3 aig 4
   go8 3 b6g 4 eis 3 eik 4 cg8 3 cyg 4 e04 3 djw 4 des 3 eik 4 cg4 3 dzw 4 cys 3 eik 4 cys 3 eik 4
   cgc 3 e00 4 cyo 3 eio 4 cg0 3 dhc 4 dhc 3 cyo 4 eio 3 dhc 4 dhc 3 cyo 4 e00 3 eio 4 cg0 3 dhc 4
   dhc 3 cyo 4 e00 3 eio 4 g2o 3 79c 4 5uo 2 1ut8 1 aw0 2 e00 1 dhc 2 cg0 1 eio 2 cdc 1 i5c 2 ag0 1
   mww0 2 cyo 1 e00 2 dhc 1 dhc 2 dhc 1 e00 2 cyo 1 dhc 2 dhc 1 dhc 2 dhc 1 dhc 2 dhc 1 dhc 2 e00 1
   dhc 2 dhc 1 dhc 2 dhc 1 dhc 2 dhc 1 dhc 2 dhc 1 dhc 2 dhc 1 dhc 2 e00 1 dhc 2 dhc 1 dhc 2 dhc 1
   dhc 2 dhc 1 dhc 2 dhc 1 dhc 2 dhc 1 e00 2 | 2s0 5k0 3 5 0 5k0 a 5 0 8c0 ; Europe/Madrid | -ok 0
   0 0 2s0 1 5k0 1 2s0 0 | 4ih8g 1 czp8 2 cw4 1 dh8 2 dk4 1 3eik 2 co4 1 15h8 2 cg4 1 dzw 2 cys 1
   eio 2 cyo 1 eik 2 cg4 1 5s7w 2 804 1 dh8 2 22k 3 bhc 2 rew 1 bx8 4 1ljw 3 8ys 4 gyk 3 cg4 4 eik
   3 cg4 4 eik 3 cg4 4 eik 3 cg4 4 1xzw 3 bes 4 ifp8 3 cys 4 dzw 3 cys 4 cyk 3 dhg 4 dzw 3 cys 4
   e08 3 dhc 4 dhc 3 dhc 4 e00 3 cyo 4 dhc 3 dhc 4 dhc 3 dhc 4 dhc 3 dhc 4 dhc 3 e00 4 dhc 3 dhc 4
   dhc 3 dhc 4 dhc 3 dhc 4 dhc 3 dhc 4 dhc 3 dhc 4 dhc 3 e00 4 dhc 3 dhc 4 dhc 3 dhc 4 dhc 3 dhc 4
   dhc 3 dhc 4 dhc 3 dhc 4 e00 3 | 2s0 5k0 3 5 0 5k0 a 5 0 8c0 ; Europe/Malta | 2os 0 2s0 0 5k0 1 |
   -313ecf8 1 -bsbx8s 2 8t8 1 dhg 2 djw 1 bus 2 fmk 1 atg 2 g2k 1 cg4 2 dh8 1 eu04 2 1sg8 1 aw0 2
   e00 1 deo 2 cg0 1 elc 2 cag 1 dk8 2 f1c 1 bx4 2 f1c 1 aw8 2 g2o 1 d914 2 9bw 1 i5g 2 8tc 1 i5c 2
   8tc 1 io0 2 8tc 1 i5c 2 8tc 1 hmo 2 9c0 1 i5c 2 9c0 1 deo 2 dhc 1 f40 2 ayo 1 g08 2 bek 1 fk4 2
   bek 1 fk4 2 bek 1 fk4 2 bek 1 fk4 2 bek 1 elg 2 cvw 1 e04 2 dhc 1 dhc 2 dhc 1 dhc 2 dhc 1 dhc 2
   e00 1 dhc 2 dhc 1 dhc 2 dhc 1 dhc 2 dhc 1 dhc 2 dhc 1 dhc 2 dhc 1 dhc 2 e00 1 dhc 2 dhc 1 dhc 2
   dhc 1 dhc 2 dhc 1 dhc 2 dhc 1 dhc 2 dhc 1 e00 2 | 2s0 5k0 3 5 0 5k0 a 5 0 8c0 ; Europe/Minsk |
   53s 0 53c 0 5k0 0 8c0 0 5k0 1 2s0 0 b40 1 8c0 1 | -2tvf0o8 1 -n4x6og 2 -379zjc 3 8a58 4 10gg 5
   aw0 4 e00 5 dhc 4 6qc 3 rm58 6 djw 3 dhg 6 djw 3 dhg 6 djw 3 dk4 6 dhk 3 dhc 6 dhc 3 dhc 6 dhc 3
   dhc 6 dhc 3 dhc 6 dhc 3 dhc 6 dhc 3 14yo 7 dhg 2 dhc 7 dhc 2 dhc 7 dhc 2 dhc 7 dhc 2 dhc 7 dhc 2
   e00 7 fk0 2 beo 7 fk0 2 beo 7 fk0 2 beo 7 g2o 2 aw0 7 g2o 2 aw0 7 g2o 2 beo 7 fk0 2 beo 7 fk0 2
   beo 7 g2o 2 aw0 7 g2o 2 aw0 7 g2o 2 aw0 7 g2o 2 beo 7 fk0 2 beo 7 fk0 2 beo 7 g2o 2 aw0 3 | 8c0
   ; Europe/Monaco | 1d8 0 fl 0 0 0 2s0 1 5k0 1 2s0 0 | -30cp9qs 1 -9tlnln 2 -2pzpnl 3 82o 2 cw0 3
   elc 2 bc0 3 fmo 2 atc 3 g5c 2 9s0 3 io0 2 aio 3 go0 2 b6o 3 eio 2 h40 3 9uo 2 cyo 3 e00 2 dhc 3
   dhc 2 eio 3 cg0 2 e00 3 cyo 2 eio 3 cyo 2 eio 3 cg0 2 e00 3 cyo 2 eio 3 cg0 2 dhc 3 dhc 2 cyo 3
   eio 2 dhc 3 dhc 2 cyo 3 e00 2 eio 3 cg0 2 dhc 3 dhc 2 cyo 3 e00 2 eio 3 g2o 2 79o 3 w7o 4 bek 3
   bes 4 hmw 3 aw0 4 e00 3 dhc 4 dx4 3 d1k 4 cdc 5 mxzw 4 dh8 5 e08 4 cyo 5 e00 4 dhc 5 dhc 4 dhc 5
   e00 4 cyo 5 dhc 4 dhc 5 dhc 4 dhc 5 dhc 4 dhc 5 dhc 4 e00 5 dhc 4 dhc 5 dhc 4 dhc 5 dhc 4 dhc 5
   dhc 4 dhc 5 dhc 4 dhc 5 dhc 4 e00 5 dhc 4 dhc 5 dhc 4 dhc 5 dhc 4 dhc 5 dhc 4 dhc 5 dhc 4 dhc 5
   e00 4 | 2s0 5k0 3 5 0 5k0 a 5 0 8c0 ; Europe/Moscow W-SU | 6yh 0 707 0 9s7 1 ck7 1 b40 1 8c0 0
   dw0 1 5k0 0 8c0 1 b40 0 | -3cx7utj 1 -ipzua 2 d9c 1 bh8 3 7xg 2 j3w 3 -1jwk7 4 3e8 5 14o0 4 2ik
   6 c5c 4 284 5 r1g 7 5sw4 5 125uk 4 djw 5 dhg 4 djw 5 dhg 4 djw 5 dk4 4 dhk 5 dhc 4 dhc 5 dhc 4
   dhc 5 dhc 4 dhc 5 dhc 4 dhc 5 dhc 4 dhc 5 dhc 4 e00 5 dhc 8 dhg 7 8ao 5 56k 4 dhc 5 dhc 4 dhc 5
   dhc 4 dhc 5 dhc 4 dhc 5 e00 4 fk0 5 beo 4 fk0 5 beo 4 fk0 5 beo 4 g2o 5 aw0 4 g2o 5 aw0 4 g2o 5
   beo 4 fk0 5 beo 4 fk0 5 beo 4 g2o 5 aw0 4 g2o 5 aw0 4 g2o 5 aw0 4 g2o 5 beo 4 fk0 5 beo 4 fk0 5
   beo 4 g2o 5 aw0 9 2oyk 5 | 8c0 ; Europe/Paris | fl 0 0 0 2s0 1 5k0 1 2s0 0 | -3a5dlcf 1 -2qx1nl
   2 82o 1 cw0 2 elc 1 bc0 2 fmo 1 atc 2 g5c 1 9s0 2 io0 1 aio 2 go0 1 b6o 2 eio 1 h40 2 9uo 1 cyo
   2 e00 1 dhc 2 dhc 1 eio 2 cg0 1 e00 2 cyo 1 eio 2 cyo 1 eio 2 cg0 1 e00 2 cyo 1 eio 2 cg0 1 dhc
   2 dhc 1 cyo 2 eio 1 dhc 2 dhc 1 cyo 2 e00 1 eio 2 cg0 1 dhc 2 dhc 1 cyo 2 e00 1 eio 2 g2o 1 79o
   2 87k 3 1sgc 4 aw0 3 e00 4 dhc 3 dx4 2 d1k 3 cdc 4 mxzw 3 dh8 4 e08 3 cyo 4 e00 3 dhc 4 dhc 3
   dhc 4 e00 3 cyo 4 dhc 3 dhc 4 dhc 3 dhc 4 dhc 3 dhc 4 dhc 3 e00 4 dhc 3 dhc 4 dhc 3 dhc 4 dhc 3
   dhc 4 dhc 3 dhc 4 dhc 3 dhc 4 dhc 3 e00 4 dhc 3 dhc 4 dhc 3 dhc 4 dhc 3 dhc 4 dhc 3 dhc 4 dhc 3
   dhc 4 e00 3 | 2s0 5k0 3 5 0 5k0 a 5 0 8c0 ; Europe/Riga | 4gy 0 78y 1 5k0 0 8c0 0 5k0 1 2s0 0
   b40 1 8c0 1 | -3dupmv2 1 beo 0 elc 1 3s0 0 58l4 2 -7fhlky 3 ofw 4 108g 5 aw0 4 e00 5 dhc 4 dhc 5
   t4 3 rel4 6 djw 3 dhg 6 djw 3 dhg 6 djw 3 dk4 6 dhk 3 dhc 6 dhc 3 dhc 6 dhc 3 dhc 6 dhc 3 dhc 6
   dhc 3 dhc 7 dhg 2 dhc 7 e00 2 dhc 7 dhc 2 dhc 7 dhc 2 dhc 7 dhc 2 dhc 7 dhc 2 dhc 7 dhc 2 e00 7
   dhc 2 dhg 7 fk0 2 beo 7 fk0 2 beo 7 g2o 2 11uo 7 | 5k0 8c0 3 5 0 8c0 a 5 0 b40 ; Europe/Rome
   Europe/San_Marino Europe/Vatican | 2b8 0 2s0 0 5k0 1 | 4d3do 1 gz40 2 8t8 1 dhg 2 djw 1 bus 2
   fmk 1 atg 2 g2k 1 cg4 2 dh8 1 eu04 2 1sg8 1 aw0 2 e00 1 dhc 2 cdc 1 elc 2 cag 1 dk8 2 f1c 1 bx4
   2 f1c 1 aw8 2 g2o 1 d914 2 9bw 1 i5g 2 8tc 1 i5c 2 8tc 1 io0 2 8tc 1 i5c 2 8tc 1 hmo 2 9c0 1 i5c
   2 9c0 1 i5c 2 8tc 1 hmo 2 9c0 1 i5c 2 8tc 1 i5c 2 8tc 1 hmo 2 9c0 1 i5c 2 9c0 1 hmo 2 9c0 1 e08
   2 cyo 1 dhc 2 dhc 1 dhc 2 dhc 1 dhc 2 dhc 1 dhc 2 e00 1 dhc 2 dhc 1 dhc 2 dhc 1 dhc 2 dhc 1 dhc
   2 dhc 1 dhc 2 dhc 1 dhc 2 e00 1 dhc 2 dhc 1 dhc 2 dhc 1 dhc 2 dhc 1 dhc 2 dhc 1 dhc 2 dhc 1 e00
   2 | 2s0 5k0 3 5 0 5k0 a 5 0 8c0 ; Europe/Samara | 99w 0 8c0 0 b40 0 dw0 1 b40 1 8c0 1 | 4wdls 1
   88vo 2 125uk 3 djw 2 dhg 3 djw 2 dhg 3 djw 2 dk4 3 dhk 2 dhc 3 dhc 2 dhc 3 dhc 2 dhc 3 dhc 2 dhc
   3 dhc 2 dhc 4 dhg 1 dhc 4 e00 1 dhc 5 dhg 1 1k0 2 bx4 3 dhc 2 dhc 3 dhc 2 dhc 3 dhc 2 dhc 3 dhc
   2 e00 3 fk0 2 beo 3 fk0 2 beo 3 fk0 2 beo 3 g2o 2 aw0 3 g2o 2 aw0 3 g2o 2 beo 3 fk0 2 beo 3 fk0
   2 beo 3 g2o 2 aw0 3 g2o 2 aw0 3 g2o 2 aw0 3 g2o 2 beo 3 fk0 2 beo 3 fk0 2 beo 4 g2s 1 aw0 2 |
   b40 ; Europe/Sarajevo | 3es 0 2s0 0 5k0 1 | -2vykmd8 1 -twhn6s 2 15n0 1 aw0 2 e00 1 dhc 2 dhc 1
   dhc 2 cdc 1 s79c 2 dhc 1 dhc 2 e00 1 dhc 2 dhc 1 dhc 2 dhc 1 dhc 2 dhc 1 dhc 2 dhc 1 dhc 2 dhc 1
   dhc 2 e00 1 dhc 2 dhc 1 dhc 2 dhc 1 dhc 2 dhc 1 dhc 2 dhc 1 dhc 2 dhc 1 e00 2 | 2s0 5k0 3 5 0
   5k0 a 5 0 8c0 ; Europe/Saratov | 8j6 0 8c0 0 b40 0 dw0 1 b40 1 | 4wdls 1 88vo 2 125uk 3 djw 2
   dhg 3 djw 2 dhg 3 djw 2 dk4 3 dhk 2 dhc 3 dhc 2 dhc 3 dhc 2 dhc 3 dhc 2 dhc 4 dhg 1 dhc 4 dhc 1
   dhc 4 e00 1 dhc 2 qyk 4 dhg 1 dhc 4 dhc 1 dhc 4 dhc 1 dhc 4 dhc 1 e00 4 fk0 1 beo 4 fk0 1 beo 4
   fk0 1 beo 4 g2o 1 aw0 4 g2o 1 aw0 4 g2o 1 beo 4 fk0 1 beo 4 fk0 1 beo 4 g2o 1 aw0 4 g2o 1 aw0 4
   g2o 1 aw0 4 g2o 1 beo 4 fk0 1 beo 4 fk0 1 beo 4 g2o 1 aw0 2 2oyk 1 1l1g 2 | b40 ;
   Europe/Simferopol | 6bc 0 6ao 0 5k0 0 8c0 0 5k0 1 2s0 0 b40 1 8c0 1 b40 0 | -2tvezgo 1 -n4x6oo 2
   -37a0qo 3 8jh8 4 r4g 5 aw0 4 e00 5 dhc 4 qc 3 rs58 6 djw 3 dhg 6 djw 3 dhg 6 djw 3 dk4 6 dhk 3
   dhc 6 dhc 3 dhc 6 dhc 3 dhc 6 dhc 3 dhc 6 dhc 3 dhc 6 dhc 3 kqo 2 1b6s 7 dhc 2 dhc 7 dhc 2 dhc 7
   2l0 6 aw8 3 dhc 6 dhc 3 dzs 6 fkc 3 bes 7 fk0 2 beo 7 fk0 2 beo 7 g2o 2 aw0 7 g2o 2 aw0 7 g2o 2
   beo 7 fk0 2 beo 7 fk0 2 beo 7 g2o 2 aw0 7 g2o 2 aw0 7 g2o 2 aw0 7 g2o 2 beo 7 fk0 2 beo 7 fk0 2
   beo 7 g2o 2 aw0 7 g2o 2 aw0 7 g2o 2 beo 7 fk0 2 bek 8 fjs 3 | 8c0 ; Europe/Skopje | 3yw 0 2s0 0
   5k0 1 | -2vyklt4 1 -twhnqw 2 15n0 1 aw0 2 e00 1 dhc 2 dhc 1 dhc 2 cdc 1 s79c 2 dhc 1 dhc 2 e00 1
   dhc 2 dhc 1 dhc 2 dhc 1 dhc 2 dhc 1 dhc 2 dhc 1 dhc 2 dhc 1 dhc 2 e00 1 dhc 2 dhc 1 dhc 2 dhc 1
   dhc 2 dhc 1 dhc 2 dhc 1 dhc 2 dhc 1 e00 2 | 2s0 5k0 3 5 0 5k0 a 5 0 8c0 ; Europe/Sofia | 4bg 0
   5ew 0 5k0 0 2s0 0 5k0 1 8c0 1 | -2tvf1gk 1 -7s708k 2 -p0d6uw 3 aw0 4 e00 3 dhc 4 dhc 3 dhg 2
   pjrg 5 dk4 2 dx8 5 d1g 2 dx8 5 cyw 2 dzs 5 cz0 2 dhc 5 dhc 2 dhc 5 e00 2 dhc 5 dhc 2 dhc 5 dhc 2
   dhc 5 dhc 2 dhc 5 dhc 2 dhc 5 dhc 2 dhc 5 e00 2 dh4 5 dh8 2 dhg 5 dh8 2 dhg 5 dh8 2 dhg 5 dh8 2
   dhg 5 dh8 2 e04 5 fjw 2 bf4 5 | 5k0 8c0 3 5 0 8c0 a 5 0 b40 ; Europe/Stockholm | 3cc 0 2se 0 2s0
   0 5k0 1 | -2tcn53o 1 -ayjpvy 2 -8jiake 3 aas 2 1bqdk 3 cyo 2 dhc 3 dhc 2 dhc 3 dhc 2 dhc 3 dhc 2
   dhc 3 e00 2 dhc 3 dhc 2 dhc 3 dhc 2 dhc 3 dhc 2 dhc 3 dhc 2 dhc 3 dhc 2 dhc 3 e00 2 dhc 3 dhc 2
   dhc 3 dhc 2 dhc 3 dhc 2 dhc 3 dhc 2 dhc 3 dhc 2 e00 3 | 2s0 5k0 3 5 0 5k0 a 5 0 8c0 ;
   Europe/Tallinn | 4l0 0 2s0 0 5k0 1 5k0 0 8c0 0 b40 1 8c0 1 | -3dqyaj0 1 -3re10 2 beo 1 lbs 0
   -ygov0 3 -a1zgd0 4 tzw 2 uls 1 aw0 2 e00 1 dhc 2 cqc 4 rg58 5 djw 4 dhg 5 djw 4 dhg 5 djw 4 dk4
   5 dhk 4 dhc 5 dhc 4 dhc 5 dhc 4 dhc 5 dhc 4 dhc 5 dhc 4 dhc 6 dhg 3 dhc 6 e00 3 dhc 6 dhc 3 dhc
   6 dhc 3 dhc 6 dhc 3 dhc 6 dhc 3 dhc 6 dhc 3 e00 6 fk0 3 beo 6 fk0 3 beo 6 fk4 3 | 5k0 8c0 3 5 0
   8c0 a 5 0 b40 ; Europe/Tirane | 3o8 0 2s0 0 5k0 1 | -3bm7crs 1 -dt2gw8 2 1sdk 1 aw0 2 w0 1 ncig
   2 b6k 1 fms 2 bek 1 fs4 2 bek 1 g2s 2 avw 1 g04 2 ayk 1 g04 2 ayk 1 g04 2 bek 1 f44 2 bek 1 g2s
   2 bek 1 elg 2 cak 1 dk4 2 dhk 1 dhc 2 dhc 1 dhc 2 dhc 1 dhc 2 dhc 1 dhc 2 dhc 1 dhc 2 dhc 1 dhc
   2 e00 1 dhc 2 dhc 1 dhc 2 dhc 1 dhc 2 dhc 1 dhc 2 dhc 1 dhc 2 dhc 1 e00 2 | 2s0 5k0 3 5 0 5k0 a
   5 0 8c0 ; Europe/Ulyanovsk | 8yo 0 8c0 0 b40 0 dw0 1 b40 1 8c0 1 5k0 0 | 4wdls 1 88vo 2 125uk 3
   djw 2 dhg 3 djw 2 dhg 3 djw 2 dk4 3 dhk 2 dhc 3 dhc 2 dhc 3 dhc 2 dhc 3 dhc 2 dhc 3 dhc 2 dhc 4
   dhg 1 dhc 4 e00 1 dhc 5 dhg 6 8ao 1 56k 4 dhc 1 dhc 4 dhc 1 dhc 4 dhc 1 dhc 4 dhc 1 e00 4 fk0 1
   beo 4 fk0 1 beo 4 fk0 1 beo 4 g2o 1 aw0 4 g2o 1 aw0 4 g2o 1 beo 4 fk0 1 beo 4 fk0 1 beo 4 g2o 1
   aw0 4 g2o 1 aw0 4 g2o 1 aw0 4 g2o 1 beo 4 fk0 1 beo 4 fk0 1 beo 4 g2o 1 aw0 2 2oyk 1 12dg 2 |
   b40 ; Europe/Vaduz | 1rg 0 2s0 0 5k0 1 | -31e940k 1 -ohmxrg 2 beo 1 fk0 2 beo 1 sx44 2 dhc 1 dhc
   2 dhc 1 dhc 2 dhc 1 dhc 2 e00 1 dhc 2 dhc 1 dhc 2 dhc 1 dhc 2 dhc 1 dhc 2 dhc 1 dhc 2 dhc 1 dhc
   2 e00 1 dhc 2 dhc 1 dhc 2 dhc 1 dhc 2 dhc 1 dhc 2 dhc 1 dhc 2 dhc 1 e00 2 | 2s0 5k0 3 5 0 5k0 a
   5 0 8c0 ; Europe/Vienna | 30x 0 2s0 0 5k0 1 | -30sc6r3 1 -c1n1gx 2 bc4 1 elk 2 beo 1 fk0 2 beo 1
   1600 2 bxc 1 eow0 2 1y00 1 aw0 2 e00 1 dhc 2 dhc 1 dhc 2 qo 1 r6o 2 d1c 1 deo 2 dhc 1 eio 2 cg0
   1 nofs 2 cyk 1 dho 2 dhc 1 dhc 2 dhc 1 dhc 2 dhc 1 dhc 2 e00 1 dhc 2 dhc 1 dhc 2 dhc 1 dhc 2 dhc
   1 dhc 2 dhc 1 dhc 2 dhc 1 dhc 2 e00 1 dhc 2 dhc 1 dhc 2 dhc 1 dhc 2 dhc 1 dhc 2 dhc 1 dhc 2 dhc
   1 e00 2 | 2s0 5k0 3 5 0 5k0 a 5 0 8c0 ; Europe/Vilnius | 4os 0 3w0 0 4fc 0 2s0 0 5k0 0 8c0 0 5k0
   1 b40 1 8c0 1 | -2tvf138 1 -jb5y4s 2 -1g224o 3 -e75nc 4 6l8 3 ew5g 5 o2g 6 10r4 3 aw0 6 e00 3
   dhc 6 8vo 5 rjzw 7 djw 5 dhg 7 djw 5 dhg 7 djw 5 dk4 7 dhk 5 dhc 7 dhc 5 dhc 7 dhc 5 dhc 7 dhc 5
   dhc 7 dhc 5 dhc 8 dhg 4 dhc 8 e00 4 dhc 8 dhc 4 dhc 8 dhc 4 dhc 8 dhc 4 dhc 8 dhc 4 dhc 8 dhc 4
   e00 8 fk0 4 beo 8 fk0 4 bes 6 fk0 3 beo 6 g2o 4 2kao 8 | 5k0 8c0 3 5 0 8c0 a 5 0 b40 ;
   Europe/Volgograd | 884 0 8c0 0 b40 0 dw0 1 b40 1 | -3er0c7w 1 -5glrw4 2 125uk 3 djw 2 dhg 3 djw
   2 dhg 3 djw 2 dk4 3 dhk 2 dhc 3 dhc 2 dhc 3 dhc 2 dhc 3 dhc 2 dhc 4 dhg 1 dhc 4 dhc 1 dhc 4 e00
   1 dhc 2 qyk 4 dhg 1 dhc 4 dhc 1 dhc 4 dhc 1 dhc 4 dhc 1 e00 4 fk0 1 beo 4 fk0 1 beo 4 fk0 1 beo
   4 g2o 1 aw0 4 g2o 1 aw0 4 g2o 1 beo 4 fk0 1 beo 4 fk0 1 beo 4 g2o 1 aw0 4 g2o 1 aw0 4 g2o 1 aw0
   4 g2o 1 beo 4 fk0 1 beo 4 fk0 1 beo 4 g2o 1 aw0 2 2oyk 1 30dg 2 1ml8 1 | 8c0 ; Europe/Warsaw
   Poland | 3w0 0 2s0 0 5k0 1 5k0 0 8c0 1 | -3cg39w0 1 -dvyc0 2 bc4 1 elk 2 beo 1 fk0 2 beo 3 fmk 4
   beo 3 2194 1 dkoc 2 1ruo 1 aw0 2 e00 1 dhc 2 dmk 1 fbw 2 drw 1 c5g 2 d1k 1 fhc 2 beo 1 eio 2 cg0
   1 e00 2 cyo 1 5rek 2 8tc 1 dhc 2 dhc 1 i5c 2 9c0 1 dhc 2 dhc 1 hmo 2 9c0 1 hmo 2 9c0 1 hmo 2 9c0
   1 i5c 2 8tc 1 9elc 2 cyo 1 e00 2 dhc 1 dhc 2 dhc 1 e00 2 cyo 1 dhc 2 dhc 1 dhc 2 dhc 1 dhc 2 dhc
   1 dhc 2 e00 1 dhc 2 dhc 1 dhc 2 dhc 1 dhc 2 dhc 1 dhg 2 dhc 1 dhc 2 dhc 1 dhc 2 e00 1 dhc 2 dhc
   1 dhc 2 dhc 1 dhc 2 dhc 1 dhc 2 dhc 1 dhc 2 dhc 1 e00 2 | 2s0 5k0 3 5 0 5k0 a 5 0 8c0 ;
   Europe/Zagreb | 2yg 0 2s0 0 5k0 1 | -2vykmtk 1 -twhmqg 2 15n0 1 aw0 2 e00 1 dhc 2 dhc 1 dhc 2
   cdc 1 s79c 2 dhc 1 dhc 2 e00 1 dhc 2 dhc 1 dhc 2 dhc 1 dhc 2 dhc 1 dhc 2 dhc 1 dhc 2 dhc 1 dhc 2
   e00 1 dhc 2 dhc 1 dhc 2 dhc 1 dhc 2 dhc 1 dhc 2 dhc 1 dhc 2 dhc 1 e00 2 | 2s0 5k0 3 5 0 5k0 a 5
   0 8c0 ; Indian/Antananarivo | 8ss 0 8c0 0 b40 1 | -3ab4rn8 1 -m9lccs 2 6qo 1 | 8c0 ;
   Indian/Chagos | des 0 dw0 0 go0 0 | -37ynwd8 1 -1ag64us 2 | go0 ; Indian/Christmas | jks 0 jg0 0
   | -31qubj8 1 | jg0 ; Indian/Cocos | hy4 0 i20 0 | -34b6ftw 1 | i20 ; Indian/Comoro | 80g 0 8c0 0
   | -3ab4sfk 1 | 8c0 ; Indian/Kerguelen | 0 0 dw0 0 | 5jaxs 1 | dw0 ; Indian/Mahe | a9o 0 b40 0 |
   -37ynzic 1 | b40 ; Indian/Maldives | dm0 0 dw0 0 | -3zmg1i0 1 | dw0 ; Indian/Mauritius | anc 0
   b40 0 dw0 1 | -37ynz4o 1 -13jnu7c 2 bzw 1 j8oc 2 bek 1 | b40 ; Indian/Mayotte | 8dk 0 8c0 0 |
   -3ab4s2g 1 | 8c0 ; Indian/Reunion | a9s 0 b40 0 | -3a9l668 1 | b40 ; MST7MDT | -jg0 0 -go0 1 |
   4vfs4 1 fjw 0 bes 1 fjw 0 gr44 1 2qfw 0 g7us 1 dh8 0 dhg 1 dh8 0 dhg 1 dh8 0 dhg 1 dh8 0 dhg 1
   dzw 0 dhg 1 dh8 0 dhg 1 dh8 0 56s 1 lrw 0 8tg 1 i58 0 dhg 1 dzw 0 cys 1 dzw 0 dhg 1 dh8 0 dhg 1
   dh8 0 dhg 1 dh8 0 dhg 1 dh8 0 dhg 1 dzw 0 cys 1 dzw 0 dhg 1 dh8 0 dhg 1 dh8 0 dhg 1 dh8 0 bxg 1
   f18 0 bxg 1 fjw 0 bes 1 fjw 0 bes 1 fjw 0 bxg 1 f18 0 bxg 1 f18 0 bxg 1 fjw 0 bes 1 fjw 0 bes 1
   fjw 0 bxg 1 f18 0 bxg 1 f18 0 bxg 1 f18 0 bxg 1 fjw 0 bes 1 fjw 0 bes 1 fjw 0 bxg 1 f18 0 bxg 1
   f18 0 bxg 1 fjw 0 bes 1 fjw 0 bes 1 fjw 0 9us 1 | -jg0 -go0 3 2 0 5k0 b 1 0 5k0 ; PST8PDT | -m80
   0 -jg0 1 | 4vfs8 1 fjw 0 bes 1 fjw 0 gr44 1 2qfw 0 g7us 1 dh8 0 dhg 1 dh8 0 dhg 1 dh8 0 dhg 1
   dh8 0 dhg 1 dzw 0 dhg 1 dh8 0 dhg 1 dh8 0 56s 1 lrw 0 8tg 1 i58 0 dhg 1 dzw 0 cys 1 dzw 0 dhg 1
   dh8 0 dhg 1 dh8 0 dhg 1 dh8 0 dhg 1 dh8 0 dhg 1 dzw 0 cys 1 dzw 0 dhg 1 dh8 0 dhg 1 dh8 0 dhg 1
   dh8 0 bxg 1 f18 0 bxg 1 fjw 0 bes 1 fjw 0 bes 1 fjw 0 bxg 1 f18 0 bxg 1 f18 0 bxg 1 fjw 0 bes 1
   fjw 0 bes 1 fjw 0 bxg 1 f18 0 bxg 1 f18 0 bxg 1 f18 0 bxg 1 fjw 0 bes 1 fjw 0 bes 1 fjw 0 bxg 1
   f18 0 bxg 1 f18 0 bxg 1 fjw 0 bes 1 fjw 0 bes 1 fjw 0 9us 1 | -m80 -jg0 3 2 0 5k0 b 1 0 5k0 ;
   Pacific/Apia | yv4 0 -vsw 0 -vy0 0 -uk0 0 -rs0 1 12w0 1 1040 0 | -30efaww 1 dwao 2 -kcrmt4 3
   19n6m 4 dxo 3 cyo 4 768 5 6ts 6 dhc 5 e00 6 cyo 5 e00 6 cyo 5 e00 6 cyo 5 e00 6 cyo 5 e00 6 cyo
   5 e00 6 dhc 5 e00 6 cyo 5 e00 6 cyo 5 e00 6 | 1040 ; Pacific/Auckland NZ | wd4 0 vy0 0 yq0 1 xc0
   1 xc0 0 1040 1 | -2o1o9ew 1 -usn9z4 2 8t8 1 glg 3 bem 1 fk2 3 bem 1 fk2 3 bem 1 fk2 3 bxa 1 f1e
   3 bxa 1 f1e 3 f1a 1 beq 3 fjy 1 beq 3 fjy 1 beq 3 fjy 1 beq 3 fjy 1 beq 3 g2m 1 aw2 3 g2m 1 beq
   3 3y7q 4 lo88 5 8ao 4 i5c 5 9uo 4 hmo 5 9c0 4 hmo 5 9c0 4 hmo 5 9c0 4 hmo 5 9c0 4 hmo 5 9c0 4
   hmo 5 9uo 4 hmo 5 9c0 4 hmo 5 9c0 4 hmo 5 9c0 4 hmo 5 9c0 4 hmo 5 9c0 4 hmo 5 9uo 4 hmo 5 9c0 4
   g2o 5 bxc 4 f1c 5 bxc 4 f1c 5 bxc 4 f1c 5 cg0 4 eio 5 cg0 4 eio 5 cg0 4 eio 5 cg0 4 f1c 5 bxc 4
   f1c 5 bxc 4 f1c 5 cg0 4 eio 5 cg0 4 eio 5 cg0 4 f1c 5 bxc 4 f1c 5 bxc 4 f1c 5 cg0 4 eio 5 cg0 4
   eio 5 cg0 4 eio 5 cg0 4 eio 5 | xc0 1040 9 5 0 5k0 4 1 0 8c0 ; Pacific/Bougainville | st4 0 r8w
   0 rs0 0 p00 0 uk0 0 | -2tvecyw 1 -7tuc88 2 -osc24w 3 2cys 2 1g4dg 4 | uk0 ; Pacific/Chatham
   NZ-CHAT | xz0 0 y10 0 zf0 0 1270 1 | -2o1o7t0 1 -149qqm0 2 lo89 3 8ao 2 i5c 3 9uo 2 hmo 3 9c0 2
   hmo 3 9c0 2 hmo 3 9c0 2 hmo 3 9c0 2 hmo 3 9c0 2 hmo 3 9uo 2 hmo 3 9c0 2 hmo 3 9c0 2 hmo 3 9c0 2
   hmo 3 9c0 2 hmo 3 9c0 2 hmo 3 9uo 2 hmo 3 9c0 2 g2o 3 bxc 2 f1c 3 bxc 2 f1c 3 bxc 2 f1c 3 cg0 2
   eio 3 cg0 2 eio 3 cg0 2 eio 3 cg0 2 f1c 3 bxc 2 f1c 3 bxc 2 f1c 3 cg0 2 eio 3 cg0 2 eio 3 cg0 2
   f1c 3 bxc 2 f1c 3 bxc 2 f1c 3 cg0 2 eio 3 cg0 2 eio 3 cg0 2 eio 3 cg0 2 eio 3 | zf0 1270 9 5 0
   7n0 4 1 0 af0 ; Pacific/Chuuk Pacific/Yap Pacific/Truk | -12k4 0 s3w 0 rs0 0 p00 0 | -2blu5o4 1
   1631c 2 -76a5nw 3 39c4 2 gnmk 3 399g 2 | rs0 ; Pacific/Easter Chile/EasterIsland | -k94 0 -jg0 0
   -go0 1 -go0 0 -dw0 1 | -3lcxy14 1 -ivmeuw 2 avw 1 hms 2 9bw 1 eis 2 bek 1 fk4 2 bek 1 g2s 2 avw
   1 f1g 2 bx8 1 g2s 2 avw 1 g2s 2 bek 1 fk4 2 bek 1 fk4 2 bek 1 g2s 2 avw 1 g2s 2 avw 1 g2s 2 bek
   1 fk4 2 bek 3 fk4 4 bek 3 fk4 4 bek 3 g2s 4 avw 3 g2s 4 avw 3 g2s 4 dh8 3 dhg 4 bek 3 fk4 4 bek
   3 g2s 4 avw 3 e04 4 cyk 3 g2s 4 bek 3 fk4 4 bek 3 fk4 4 bek 3 fk4 4 bek 3 g2s 4 avw 3 g2s 4 cfw
   3 eis 4 bek 3 eis 4 dzw 3 e04 4 bek 3 g2s 4 avw 3 g2s 4 avw 3 g2s 4 avw 3 g2s 4 bek 3 fk4 4 bek
   3 fk4 4 bek 3 g2s 4 avw 3 g2s 4 cfw 3 eis 4 bek 3 fk4 4 cyk 3 e04 4 fjw 3 7s4 4 inw 3 9c4 4 hmk
   3 9us 4 h3w 3 9us 4 19mk 3 6qs 4 k7w 3 6qs 4 k7w 3 6qs 4 hmk 3 bes 4 fjw 3 bes 4 fjw 3 bes 4 fjw
   3 bxg 4 | -go0 -dw0 9 1 6 1p40 4 1 6 1p40 ; Pacific/Efate | v64 0 uk0 0 xc0 1 | -3al73xw 1
   -wbu364 2 79c 1 74o4 2 dh8 1 dhg 2 dh8 1 e04 2 cyk 1 e04 2 dh8 1 dhg 2 dh8 1 dhg 2 dh8 1 dhg 2
   dh8 1 dhg 2 dh8 1 e04 2 8t8 1 k84 2 6qk 1 | uk0 ; Pacific/Fakaofo | -vpk 0 -uk0 0 1040 0 |
   -34tzqtk 1 -1lxe1ig 2 | 1040 ; Pacific/Fiji | x4w 0 xc0 0 1040 1 | -3ckabb4 1 -17bs00w 2 8tc 1
   io0 2 8ao 1 7bxc 2 8tc 1 fk0 2 9uo 1 h40 2 6qo 1 k80 2 6qo 1 kqo 2 67w 1 l9g 2 5pc 1 l9c 2 5pc 1
   ls0 2 56o 1 ls0 2 56o 1 ls0 2 56o 1 mao 2 4o0 1 peo 2 22o 1 | xc0 ; Pacific/Funafuti | x6s 0 xc0
   0 | -34txxx8 1 | xc0 ; Pacific/Galapagos | -glc 0 -dw0 0 -go0 0 -dw0 1 | -3khm2dc 1 -spdryo 2
   56w4 3 53w 2 | -go0 ; Pacific/Gambier | -ozo 0 -p00 0 | -3aypuro 1 | -p00 ; Pacific/Guadalcanal
   | tmc 0 uk0 0 | -3ayoc5o 1 | uk0 ; Pacific/Guam | -13v0 0 qt0 0 rs0 0 p00 0 uk0 1 | -2blu6z0 1
   1631c 2 -ld6pp0 3 1zes 2 b79g 4 173w 2 4y84 4 -qdrpo 2 -7kgac 4 56k 2 hms 4 9uk 2 h44 4 9uk 2
   1ppg 4 56k 2 1ow4 4 -4ivxo 2 -cls2c 4 9bw 2 | rs0 ; Pacific/Honolulu Pacific/Johnston US/Hawaii
   | -t8e 0 -t60 0 -qe0 1 -rs0 0 | -328pcce 1 -jgnatm 2 1l0 1 6jz0 2 2qfw 1 19ms 3 | -rs0 ;
   Pacific/Kanton Pacific/Enderbury | 0 0 -xc0 0 -uk0 0 1040 0 | 5a15s 1 vmmo 2 bgl8 3 | 1040 ;
   Pacific/Kiritimati | -t4w 0 -tmo 0 -rs0 0 12w0 0 | -34tzo8w 1 -153iz5s 2 -7yirhc 3 | 12w0 ;
   Pacific/Kosrae | -10hg 0 u6k 0 uk0 0 p00 0 rs0 0 xc0 0 | -2blu3lg 1 1631c 2 -76a4yk 3 39c8 2
   dgqg 4 36w4 3 399g 2 i5ug 5 lzek 2 | uk0 ; Pacific/Kwajalein Kwajalein | uzk 0 uk0 0 rs0 0 p00 0
   -xc0 0 xc0 0 | -34ty04g 1 -ise0fk 2 36w4 3 2544 1 j9zs 4 hyd8 5 | xc0 ; Pacific/Majuro | vpc 0
   uk0 0 p00 0 rs0 0 xc0 0 | -34txzeo 1 -76a6hc 2 39c8 1 dgqg 3 36w4 2 24lg 1 jaig 4 | xc0 ;
   Pacific/Marquesas | -pu0 0 -qe0 0 | -3aypvm0 1 | -qe0 ; Pacific/Midway | -wug 0 -uk0 0 -rs0 1 |
   -34tzryg 1 -sx94dk 2 6qk 1 | -uk0 ; Pacific/Nauru | uws 0 vy0 0 p00 0 xc0 0 | -3fafpj8 1 -ba66ys
   2 29xm 1 p4am 3 | xc0 ; Pacific/Niue | -vgs 0 -vhc 0 -uk0 0 | -3vv1d8s 1 -63yiok 2 | -uk0 ;
   Pacific/Norfolk | v3s 0 v40 0 vy0 0 yq0 1 uk0 0 xc0 1 | -34ty008 1 -q3eins 2 -cfj8q0 3 9c0 2
   ui80 4 30de 5 | uk0 xc0 a 1 0 5k0 4 1 0 8c0 ; Pacific/Noumea | uto 0 uk0 0 xc0 1 | -3al74ac 1
   -ye0ixo 2 6ak 1 ko4 2 6d8 1 dcj0 2 6qo 1 | uk0 ; Pacific/Pago_Pago Pacific/Samoa US/Samoa | z20
   0 -vm0 0 -uk0 0 | -30efaq0 1 dwao 2 | -uk0 ; Pacific/Palau | -15rg 0 owk 0 p00 0 | -2blu8vg 1
   1631c 2 | p00 ; Pacific/Pitcairn | -o38 0 -nm0 0 -m80 0 | -34tzj78 1 -1esg26s 2 | -m80 ;
   Pacific/Pohnpei Pacific/Ponape | -11d8 0 tas 0 uk0 0 p00 0 rs0 0 | -2blu4h8 1 1631c 2 -76a42s 3
   39c8 2 dgqg 4 36w4 3 399g 2 | uk0 ; Pacific/Port_Moresby | r94 0 r8w 0 rs0 0 | -2tveeiw 1
   -7tuao8 2 | rs0 ; Pacific/Rarotonga | 112w 0 -tl4 0 -t60 0 -qe0 1 -rs0 0 | -34ausp4 1 13oqo 2
   -dlv68w 3 8ak 4 hmq 3 9by 4 hmq 3 9by 4 hmq 3 9um 4 hmq 3 9by 4 hmq 3 9by 4 hmq 3 9by 4 hmq 3
   9by 4 hmq 3 9by 4 hmq 3 9um 4 hmq 3 9by 4 hmq 3 9by 4 hmq 3 9by 4 | -rs0 ; Pacific/Saipan |
   -13oc 0 qzo 0 p00 0 rs0 0 uk0 1 | -2blu6sc 1 1631c 2 -mpn8no 3 b8w4 4 173w 3 4y84 4 -qdrpo 3
   -7kgac 4 56k 3 hms 4 9uk 3 h44 4 9uk 3 1ppg 4 56k 3 1ow4 4 -4ivxo 3 -cls2c 4 9bw 3 | rs0 ;
   Pacific/Tahiti | -rp4 0 -rs0 0 | -3aypxh4 1 | -rs0 ; Pacific/Tarawa | w1g 0 xc0 0 | -34txz2k 1 |
   xc0 ; Pacific/Tongatapu | y80 0 y9c 0 1040 0 12w0 1 | -3s5low0 1 -7znjyo 2 -k8amdc 3 c5c 2 h40 3
   67w 2 kqs 3 67w 2 b3s4 3 56o 2 | 1040 ; Pacific/Wake | uus 0 xc0 0 | -34ty098 1 | xc0 ;
   Pacific/Wallis | y1k 0 xc0 0 | -34txx2g 1 | xc0 ; WET | 0 0 2s0 1 | 63s9w 1 cyo 0 e00 1 dhc 0
   dhc 1 dhc 0 e00 1 cyo 0 dhc 1 dhc 0 dhc 1 dhc 0 dhc 1 dhc 0 dhc 1 e00 0 dhc 1 dhc 0 dhc 1 dhc 0
   dhc 1 dhc 0 dhc 1 dhc 0 dhc 1 dhc 0 dhc 1 e00 0 dhc 1 dhc 0 dhc 1 dhc 0 dhc 1 dhc 0 dhc 1 dhc 0
   dhc 1 dhc 0 e00 1 | 0 2s0 3 5 0 2s0 a 5 0 5k0"

end BraceTemplate.Calendar
