/-!
# BraceTemplate.Calendar.LocaleTable

Identifiers of locales, and how weeks begin in a territory. A row holds a language, its likely
script and territory, and the parts that may follow the language in an identifier.
-/

namespace BraceTemplate.Calendar

def localeRows : String :=
  "aa Latn_ET DJ ER ET ; ab Cyrl_GE GE ; af Latn_ZA NA ZA ; agq Latn_CM CM ; ak Latn_GH GH ; am
   Ethi_ET ET ; an Latn_ES ES ; ann Latn_NG NG ; apc Arab_SY SY ; ar Arab_EG 001 AE BH DJ DZ EG EH
   ER IL IQ JO KM KW LB LY MA MR OM PS QA SA SD SO SS SY TD TN YE ; arn Latn_CL CL ; ars Arab_SA ;
   as Beng_IN IN ; asa Latn_TZ TZ ; ast Latn_ES ES ; az Latn_AZ AZ Cyrl Cyrl_AZ Latn Latn_AZ ; ba
   Cyrl_RU RU ; bal Arab_PK Arab Arab_PK Latn Latn_PK ; bas Latn_CM CM ; be Cyrl_BY BY TARASK ; bem
   Latn_ZM ZM ; bew Latn_ID ID ; bez Latn_TZ TZ ; bg Cyrl_BG BG ; bgc Deva_IN IN ; bgn Arab_PK AE
   AF IR OM PK ; bho Deva_IN IN ; blo Latn_BJ BJ ; blt Tavt_VN VN ; bm Latn_ML ML ; bn Beng_BD BD
   IN ; bo Tibt_CN CN IN ; br Latn_FR FR ; brx Deva_IN IN ; bs Latn_BA BA Cyrl Cyrl_BA Latn Latn_BA
   ; bss Latn_CM CM ; bua Cyrl_RU RU ; byn Ethi_ER ER ; ca Latn_ES AD ES ES_VALENCIA FR IT ; cad
   Latn_US US ; cch Latn_NG NG ; ccp Cakm_BD BD IN ; ce Cyrl_RU RU ; ceb Latn_PH PH ; cgg Latn_UG
   UG ; cho Latn_US US ; chr Cher_US US ; cic Latn_US US ; ckb Arab_IQ IQ IR ; co Latn_FR FR ; cs
   Latn_CZ CZ ; csw Cans_CA CA ; cu Cyrl_RU RU ; cv Cyrl_RU RU ; cy Latn_GB GB ; da Latn_DK DK GL ;
   dav Latn_KE KE ; de Latn_DE AT BE CH DE IT LI LU ; dje Latn_NE NE ; doi Deva_IN IN ; dsb Latn_DE
   DE ; dua Latn_CM CM ; dv Thaa_MV MV ; dyo Latn_SN SN ; dz Tibt_BT BT ; ebu Latn_KE KE ; ee
   Latn_GH GH TG ; el Grek_GR CY GR ; en Latn_US 001 150 AE AG AI AS AT AU BB BE BI BM BS BW BZ CA
   CC CH CK CM CX CY CZ DE DG DK DM EE ER ES FI FJ FK FM FR GB GD GE GG GH GI GM GS GU GY HK HU ID
   IE IL IM IN IO IT JE JM JP KE KI KN KY LC LR LS LT LV MG MH MO MP MS MT MU MV MW MY NA NF NG NL
   NO NR NU NZ PG PH PK PL PN PR PT PW RO RW SB SC SD SE SG SH SI SK SL SS SX SZ TC TK TO TT TV TZ
   UA UG UM US US_POSIX VC VG VI VU WS ZA ZM ZW ; eo Latn_001 001 ; es Latn_ES 419 AR BO BR BZ CL
   CO CR CU DO EA EC ES GQ GT HN IC MX NI PA PE PH PR PY SV US UY VE ; et Latn_EE EE ; eu Latn_ES
   ES ; ewo Latn_CM CM ; fa Arab_IR AF IR ; ff Latn_SN Adlm Adlm_BF Adlm_CM Adlm_GH Adlm_GM Adlm_GN
   Adlm_GW Adlm_LR Adlm_MR Adlm_NE Adlm_NG Adlm_SL Adlm_SN BF CM GH GM GN GW LR Latn Latn_BF
   Latn_CM Latn_GH Latn_GM Latn_GN Latn_GW Latn_LR Latn_MR Latn_NE Latn_NG Latn_SL Latn_SN MR NE NG
   SL SN ; fi Latn_FI FI ; fil Latn_PH PH ; fo Latn_FO DK FO ; fr Latn_FR BE BF BI BJ BL CA CD CF
   CG CH CI CM DJ DZ FR GA GF GN GP GQ HT KM LU MA MC MF MG ML MQ MR MU NC NE PF PM RE RW SC SN SY
   TD TG TN VU WF YT ; frr Latn_DE DE ; fur Latn_IT IT ; fy Latn_NL NL ; ga Latn_IE GB IE ; gaa
   Latn_GH GH ; gd Latn_GB GB ; gez Ethi_ET ER ET ; gl Latn_ES ES ; gn Latn_PY PY ; gsw Latn_CH CH
   FR LI ; gu Gujr_IN IN ; guz Latn_KE KE ; gv Latn_IM IM ; ha Latn_NG GH NE NG ; haw Latn_US US ;
   he Hebr_IL IL ; hi Deva_IN IN Latn Latn_IN ; hnj Hmnp_US Hmnp Hmnp_US ; hr Latn_HR BA HR ; hsb
   Latn_DE DE ; hu Latn_HU HU ; hy Armn_AM AM ; ia Latn_001 001 ; id Latn_ID ID ; ie Latn_EE EE ;
   ig Latn_NG NG ; ii Yiii_CN CN ; io Latn_001 001 ; is Latn_IS IS ; it Latn_IT CH IT SM VA ; iu
   Cans_CA CA Latn Latn_CA ; ja Jpan_JP JP ; jbo Latn_001 001 ; jgo Latn_CM CM ; jmc Latn_TZ TZ ;
   jv Latn_ID ID ; ka Geor_GE GE ; kaa Cyrl_UZ Cyrl Cyrl_UZ Latn Latn_UZ ; kab Latn_DZ DZ ; kaj
   Latn_NG NG ; kam Latn_KE KE ; kcg Latn_NG NG ; kde Latn_TZ TZ ; kea Latn_CV CV ; ken Latn_CM CM
   ; kgp Latn_BR BR ; khq Latn_ML ML ; ki Latn_KE KE ; kk Cyrl_KZ Arab Arab_CN CN Cyrl Cyrl_KZ KZ ;
   kkj Latn_CM CM ; kl Latn_GL GL ; kln Latn_KE KE ; km Khmr_KH KH ; kn Knda_IN IN ; ko Kore_KR CN
   KP KR ; kok Deva_IN Deva Deva_IN IN Latn Latn_IN ; kpe Latn_LR GN LR ; ks Arab_IN Arab Arab_IN
   Deva Deva_IN IN ; ksb Latn_TZ TZ ; ksf Latn_CM CM ; ksh Latn_DE DE ; ku Latn_TR IQ Latn Latn_IQ
   Latn_SY Latn_TR SY TR ; kw Latn_GB GB ; kxv Latn_IN Deva Deva_IN IN Latn Latn_IN Orya Orya_IN
   Telu Telu_IN ; ky Cyrl_KG KG ; la Latn_VA VA ; lag Latn_TZ TZ ; lb Latn_LU LU ; lg Latn_UG UG ;
   lij Latn_IT IT ; lkt Latn_US US ; lld Latn_IT IT ; lmo Latn_IT IT ; ln Latn_CD AO CD CF CG ; lo
   Laoo_LA LA ; lrc Arab_IR IQ IR ; lt Latn_LT LT ; ltg Latn_LV LV ; lu Latn_CD CD ; luo Latn_KE KE
   ; luy Latn_KE KE ; lv Latn_LV LV ; mai Deva_IN IN ; mas Latn_KE KE TZ ; mdf Cyrl_RU RU ; mer
   Latn_KE KE ; mfe Latn_MU MU ; mg Latn_MG MG ; mgh Latn_MZ MZ ; mgo Latn_CM CM ; mhn Latn_IT IT ;
   mi Latn_NZ NZ ; mic Latn_CA CA ; mk Cyrl_MK MK ; ml Mlym_IN IN ; mn Cyrl_MN MN ; mni Beng_IN
   Beng Beng_IN IN ; moh Latn_CA CA ; mr Deva_IN IN ; ms Latn_MY BN ID MY SG ; mt Latn_MT MT ; mua
   Latn_CM CM ; mus Latn_US US ; my Mymr_MM MM ; myv Cyrl_RU RU ; mzn Arab_IR IR ; naq Latn_NA NA ;
   nb Latn_NO NO SJ ; nd Latn_ZW ZW ; nds Latn_DE DE NL ; ne Deva_NP IN NP ; nl Latn_NL AW BE BQ CW
   NL SR SX ; nmg Latn_CM CM ; nn Latn_NO NO ; nnh Latn_CM CM ; no Latn_NO NO ; nqo Nkoo_GN GN ; nr
   Latn_ZA ZA ; nso Latn_ZA ZA ; nus Latn_SS SS ; nv Latn_US US ; ny Latn_MW MW ; nyn Latn_UG UG ;
   oc Latn_FR ES FR ; om Latn_ET ET KE ; or Orya_IN IN ; os Cyrl_GE GE RU ; osa Osge_US US ; pa
   Guru_IN Arab Arab_PK Guru Guru_IN IN PK ; pap Latn_CW AW CW ; pcm Latn_NG NG ; pis Latn_SB SB ;
   pl Latn_PL PL ; pms Latn_IT IT ; prg Latn_PL PL ; ps Arab_AF AF PK ; pt Latn_BR AO BR CH CV GQ
   GW LU MO MZ PT ST TL ; qu Latn_PE BO EC PE ; quc Latn_GT GT ; raj Deva_IN IN ; rhg Rohg_MM Rohg
   Rohg_BD Rohg_MM ; rif Latn_MA MA ; rm Latn_CH CH ; rn Latn_BI BI ; ro Latn_RO MD RO ; rof
   Latn_TZ TZ ; ru Cyrl_RU BY KG KZ MD RU UA ; rw Latn_RW RW ; rwk Latn_TZ TZ ; sa Deva_IN IN ; sah
   Cyrl_RU RU ; saq Latn_KE KE ; sat Olck_IN IN Olck Olck_IN ; sbp Latn_TZ TZ ; sc Latn_IT IT ; scn
   Latn_IT IT ; sd Arab_PK Arab Arab_PK Deva Deva_IN IN PK ; sdh Arab_IR IQ IR ; se Latn_NO FI NO
   SE ; seh Latn_MZ MZ ; ses Latn_ML ML ; sg Latn_CF CF ; shi Tfng_MA Latn Latn_MA MA Tfng Tfng_MA
   ; shn Mymr_MM MM TH ; si Sinh_LK LK ; sid Latn_ET ET ; sk Latn_SK SK ; skr Arab_PK PK ; sl
   Latn_SI SI ; sma Latn_SE NO SE ; smj Latn_SE NO SE ; smn Latn_FI FI ; sms Latn_FI FI ; sn
   Latn_ZW ZW ; so Latn_SO DJ ET KE SO ; sq Latn_AL AL MK XK ; sr Cyrl_RS BA Cyrl Cyrl_BA Cyrl_ME
   Cyrl_RS Cyrl_XK Latn Latn_BA Latn_ME Latn_RS Latn_XK ME RS XK ; ss Latn_ZA SZ ZA ; ssy Latn_ER
   ER ; st Latn_ZA LS ZA ; su Latn_ID ID Latn Latn_ID ; sv Latn_SE AX FI SE ; sw Latn_TZ CD KE TZ
   UG ; syr Syrc_IQ IQ SY ; szl Latn_PL PL ; ta Taml_IN IN LK MY SG ; te Telu_IN IN ; teo Latn_UG
   KE UG ; tg Cyrl_TJ TJ ; th Thai_TH TH ; ti Ethi_ET ER ET ; tig Ethi_ER ER ; tk Latn_TM TM ; tn
   Latn_ZA BW ZA ; to Latn_TO TO ; tok Latn_001 001 ; tpi Latn_PG PG ; tr Latn_TR CY TR ; trv
   Latn_TW TW ; trw Arab_PK PK ; ts Latn_ZA ZA ; tt Cyrl_RU RU ; twq Latn_NE NE ; tyv Cyrl_RU RU ;
   tzm Latn_MA MA ; ug Arab_CN CN ; uk Cyrl_UA UA ; ur Arab_PK IN PK ; uz Latn_UZ AF Arab Arab_AF
   Cyrl Cyrl_UZ Latn Latn_UZ UZ ; vai Vaii_LR LR Latn Latn_LR Vaii Vaii_LR ; ve Latn_ZA ZA ; vec
   Latn_IT IT ; vi Latn_VN VN ; vmw Latn_MZ MZ ; vo Latn_001 001 ; vun Latn_TZ TZ ; wa Latn_BE BE ;
   wae Latn_CH CH ; wal Ethi_ET ET ; wbp Latn_AU AU ; wo Latn_SN SN ; xh Latn_ZA ZA ; xnr Deva_IN
   IN ; xog Latn_UG UG ; yav Latn_CM CM ; yi Hebr_UA UA ; yo Latn_NG BJ NG ; yrl Latn_BR BR CO VE ;
   yue Hant_HK CN HK Hans Hans_CN Hant Hant_CN Hant_HK Hant_MO MO ; za Latn_CN CN ; zgh Tfng_MA MA
   ; zh Hans_CN CN HK Hans Hans_CN Hans_HK Hans_MO Hans_MY Hans_SG Hant Hant_HK Hant_MO Hant_MY
   Hant_TW MO MY SG TW ; zu Latn_ZA ZA"

/-- Languages with a territory whose script is not the likely one of the language, and the
script. -/
def regionalScripts : String :=
  "kk_CN_Arab pa_PK_Arab sd_IN_Deva sr_ME_Latn uz_AF_Arab yue_CN_Hans zh_HK_Hant zh_MO_Hant
   zh_TW_Hant"

/-- Codes of a language and the code that is used instead, two by two. -/
def languageAliases : String :=
  "adp dz afr af aka ak alb sq als sq amh am ara ar arb ar arm hy asm as aze az azj az bak ba bam
   bm baq eu bel be ben bn bh bho bih bho bod bo bos bs bre br bul bg bur my bxk luy bxr bua cat ca
   ces cs che ce chi zh chv cv cld syr cls sa cmn zh cor kw cym cy cze cs dan da deu de dgo doi drh
   mn dut nl dzo dz ekk et ell el eng en epo eo est et eus eu ewe ee fao fo fas fa fat ak fin fi
   fra fr fre fr fry fy fuc ff ful ff gaz om geo ka ger de gla gd gle ga glg gl glv gv gom kok gre
   el guj gu hau ha heb he hin hi hrv hr hun hu hye hy ibo ig ice is iii ii ile ie in id ina ia ind
   id isl is ita it iw he jav jv jaw jv ji yi jpn ja jw jv kal kl kan kn kas ks kat ka kaz kk khk
   mn khm km kik ki kin rw kir ky kmr ku kor ko kur ku lao lo lav lv lin ln lit lt ltz lb lub lu
   lug lg lvs lv mac mk mal ml mao mi mar mr may ms mkd mk mlg mg mlt mt mo ro mol ro mon mn mri mi
   msa ms mup raj mya my nde nd nep ne nld nl nno nn nob nb nor no npi ne oci oc ori or orm om ory
   or oss os pan pa pbu ps per fa pes fa plt mg pol pl por pt prp gu pus ps que qu quz qu roh rm
   ron ro rum ro run rn rus ru sag sg san sa scc sr scr hr sin si slk sk slo sk slv sl sme se sna
   sn snd sd som so sot st spa es spy kln sqi sq src sc srd sc srp sr sun su swa sw swe sv swh sw
   tam ta tat tt tel te tgk tg tgl fil tha th tib bo tir ti tl fil ton to tsn tn tuk tk tur tr tw
   ak twi ak uig ug ukr uk urd ur uzb uz uzn uz vie vi wel cy wol wo xho xh ydd yi yid yi yor yo
   zha za zho zh zsm ms zul zu zyb za"

/-- Codes of a territory and the code that is used instead, two by two. -/
def territoryAliases : String :=
  "AN CW BU MM CS RS CT KI DD DE DY BJ FQ AQ FX FR HV BF JT UM MI UM NH VU NQ AQ NT SA PC FM PU UM
   PZ PA QU EU RH ZW SU RU TP TL UK GB VD VN WK UM YD YE YU RS ZR CD 004 AF 008 AL 010 AQ 012 DZ
   016 AS 020 AD 024 AO 028 AG 031 AZ 032 AR 036 AU 040 AT 044 BS 048 BH 050 BD 051 AM 052 BB 056
   BE 060 BM 062 034 064 BT 068 BO 070 BA 072 BW 074 BV 076 BR 084 BZ 086 IO 090 SB 092 VG 096 BN
   100 BG 104 MM 108 BI 112 BY 116 KH 120 CM 124 CA 132 CV 136 KY 140 CF 144 LK 148 TD 152 CL 156
   CN 158 TW 162 CX 166 CC 170 CO 172 RU 174 KM 175 YT 178 CG 180 CD 184 CK 188 CR 191 HR 192 CU
   196 CY 200 CZ 203 CZ 204 BJ 208 DK 212 DM 214 DO 218 EC 222 SV 226 GQ 230 ET 231 ET 232 ER 233
   EE 234 FO 238 FK 239 GS 242 FJ 246 FI 248 AX 249 FR 250 FR 254 GF 258 PF 260 TF 262 DJ 266 GA
   268 GE 270 GM 275 PS 276 DE 278 DE 280 DE 288 GH 292 GI 296 KI 300 GR 304 GL 308 GD 312 GP 316
   GU 320 GT 324 GN 328 GY 332 HT 334 HM 336 VA 340 HN 344 HK 348 HU 352 IS 356 IN 360 ID 364 IR
   368 IQ 372 IE 376 IL 380 IT 384 CI 388 JM 392 JP 398 KZ 400 JO 404 KE 408 KP 410 KR 414 KW 417
   KG 418 LA 422 LB 426 LS 428 LV 430 LR 434 LY 438 LI 440 LT 442 LU 446 MO 450 MG 454 MW 458 MY
   462 MV 466 ML 470 MT 474 MQ 478 MR 480 MU 484 MX 492 MC 496 MN 498 MD 499 ME 500 MS 504 MA 508
   MZ 512 OM 516 NA 520 NR 524 NP 528 NL 530 CW 531 CW 532 CW 533 AW 534 SX 535 BQ 536 SA 540 NC
   548 VU 554 NZ 558 NI 562 NE 566 NG 570 NU 574 NF 578 NO 580 MP 581 UM 582 FM 583 FM 584 MH 585
   PW 586 PK 591 PA 598 PG 600 PY 604 PE 608 PH 612 PN 616 PL 620 PT 624 GW 626 TL 630 PR 634 QA
   638 RE 642 RO 643 RU 646 RW 652 BL 654 SH 659 KN 660 AI 662 LC 663 MF 666 PM 670 VC 674 SM 678
   ST 682 SA 686 SN 688 RS 690 SC 694 SL 702 SG 703 SK 704 VN 705 SI 706 SO 710 ZA 716 ZW 720 YE
   724 ES 728 SS 729 SD 732 EH 736 SD 740 SR 744 SJ 748 SZ 752 SE 756 CH 760 SY 762 TJ 764 TH 768
   TG 772 TK 776 TO 780 TT 784 AE 788 TN 792 TR 795 TM 796 TC 798 TV 800 UG 804 UA 807 MK 810 RU
   818 EG 826 GB 830 JE 831 GG 832 JE 833 IM 834 TZ 840 US 850 VI 854 BF 858 UY 860 UZ 862 VE 876
   WF 882 WS 886 YE 887 YE 890 RS 891 RS 894 ZM 958 AA 959 QM 960 QN 962 QP 963 QQ 964 QR 965 QS
   966 QT 967 EU 968 QV 969 QW 970 QX 971 QY 972 QZ 973 XA 974 XB 975 XC 976 XD 977 XE 978 XF 979
   XG 980 XH 981 XI 982 XJ 983 XK 984 XL 985 XM 986 XN 987 XO 988 XP 989 XQ 990 XR 991 XS 992 XT
   993 XU 994 XV 995 XW 996 XX 997 XY 998 XZ 999 ZZ"

/-- Territories where a week begins on Sunday. -/
def sundayTerritories : String :=
  "AG AS BD BR BS BT BW BZ CA CO DM DO ET GT GU HK HN ID IL IN IS JM JP KE KH KR LA MH MM MO MT MX
   MZ NI NP PA PE PH PK PR PT PY SA SG SV TH TT TW UM US VE VI WS YE ZA ZW"

/-- Territories where a week begins on Saturday. -/
def saturdayTerritories : String :=
  "AF BH DJ DZ EG IQ IR JO KW LY OM QA SD SY"

/-- Territories where a week begins on Friday. -/
def fridayTerritories : String := "MV"

/-- Territories where the first week of a year has at least four of its days. -/
def fourDayTerritories : String :=
  "AD AT AX BE BG CH CZ DE DK EE ES FI FJ FO FR GB GF GG GI GP GR HU IE IM IS IT JE LI LT LU MC MQ
   NL NO PL PT RE RU SE SJ SK SM VA"

end BraceTemplate.Calendar
