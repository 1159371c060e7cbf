/-
# Case folding

Two characters are variants of each other when simple case folding takes them to the same one.

* `Text.foldPoint` : simple case folding, on the numbers of characters;
* `Text.caseVariants` : all characters that fold to the same one as a given character.
-/
import PolicyLint.Text.Table

namespace PolicyLint.Text

/-- Runs of characters that fold to a run of others: where it starts, how long it is, and where the
run it folds to starts. -/
def foldRuns : List (Nat × Nat × Nat) := Table.triples
    "1t q 2p 51 1 qk 5c n 68 60 7 6w 74 1 75 76 1 77 78 1 79 7a 1 7b 7c 1 7d 7e 1 7f 7g 1 7h 7i
    1 7j 7k 1 7l 7m 1 7n 7o 1 7p 7q 1 7r 7s 1 7t 7u 1 7v 7w 1 7x 7y 1 7z 80 1 81 82 1 83 84 1
    85 86 1 87 88 1 89 8a 1 8b 8c 1 8d 8e 1 8f 8i 1 8j 8k 1 8l 8m 1 8n 8p 1 8q 8r 1 8s 8t 1 8u
    8v 1 8w 8x 1 8y 8z 1 90 91 1 92 93 1 94 96 1 97 98 1 99 9a 1 9b 9c 1 9d 9e 1 9f 9g 1 9h 9i
    1 9j 9k 1 9l 9m 1 9n 9o 1 9p 9q 1 9r 9s 1 9t 9u 1 9v 9w 1 9x 9y 1 9z a0 1 a1 a2 1 a3 a4 1
    a5 a6 1 a7 a8 1 a9 aa 1 ab ac 1 ad ae 1 af ag 1 73 ah 1 ai aj 1 ak al 1 am an 1 37 ap 1 gj
    aq 1 ar as 1 at au 1 gk av 1 aw ax 2 gm az 1 b0 b2 1 d9 b3 1 gp b4 1 gr b5 1 b6 b7 1 gw b8
    1 gz ba 1 h5 bb 1 h4 bc 1 bd bg 1 hb bh 1 he bj 1 hh bk 1 bl bm 1 bn bo 1 bp bq 1 hs br 1
    bs bt 1 hv bw 1 bx by 1 i0 bz 1 c0 c1 2 i2 c3 1 c4 c5 1 c6 c7 1 ia c8 1 c9 cc 1 cd ck 1 cm
    cl 1 cm cn 1 cp co 1 cp cq 1 cs cr 1 cs ct 1 cu cv 1 cw cx 1 cy cz 1 d0 d1 1 d2 d3 1 d4 d5
    1 d6 d7 1 d8 da 1 db dc 1 dd de 1 df dg 1 dh di 1 dj dk 1 dl dm 1 dn do 1 dp dq 1 dr dt 1
    dv du 1 dv dw 1 dx dy 1 b9 dz 1 cf e0 1 e1 e2 1 e3 e4 1 e5 e6 1 e7 e8 1 e9 ea 1 eb ec 1 ed
    ee 1 ef eg 1 eh ei 1 ej ek 1 el em 1 en eo 1 ep eq 1 er es 1 et eu 1 ev ew 1 ex ey 1 ez f0
    1 f1 f2 1 f3 f4 1 bi f6 1 f7 f8 1 f9 fa 1 fb fc 1 fd fe 1 ff fg 1 fh fi 1 fj fk 1 fl fm 1
    fn fu 1 8rp fv 1 fw fx 1 be fy 1 8rq g1 1 g2 g3 1 ao g4 1 i1 g5 1 i4 g6 1 g7 g8 1 g9 ga 1
    gb gc 1 gd ge 1 gf n9 1 qh og 1 oh oi 1 oj om 1 on ov 1 s3 p2 1 q4 p4 3 q5 p8 1 r0 pa 2 r1
    pd h q9 pv 9 qr qq 1 qr r3 1 rb r4 1 qa r5 1 qg r9 1 qu ra 1 qo rc 1 rd re 1 rf rg 1 rh ri
    1 rj rk 1 rl rm 1 rn ro 1 rp rq 1 rr rs 1 rt ru 1 rv rw 1 rx ry 1 rz s0 1 qi s1 1 qp s4 1
    qg s5 1 qd s7 1 s8 s9 1 s2 sa 1 sb sd 3 or sg g uo sw w ts v4 1 v5 v6 1 v7 v8 1 v9 va 1 vb
    vc 1 vd ve 1 vf vg 1 vh vi 1 vj vk 1 vl vm 1 vn vo 1 vp vq 1 vr vs 1 vt vu 1 vv vw 1 vx vy
    1 vz w0 1 w1 wa 1 wb wc 1 wd we 1 wf wg 1 wh wi 1 wj wk 1 wl wm 1 wn wo 1 wp wq 1 wr ws 1
    wt wu 1 wv ww 1 wx wy 1 wz x0 1 x1 x2 1 x3 x4 1 x5 x6 1 x7 x8 1 x9 xa 1 xb xc 1 xd xe 1 xf
    xg 1 xh xi 1 xj xk 1 xl xm 1 xn xo 1 xp xq 1 xr xs 1 y7 xt 1 xu xv 1 xw xx 1 xy xz 1 y0 y1
    1 y2 y3 1 y4 y5 1 y6 y8 1 y9 ya 1 yb yc 1 yd ye 1 yf yg 1 yh yi 1 yj yk 1 yl ym 1 yn yo 1
    yp yq 1 yr ys 1 yt yu 1 yv yw 1 yx yy 1 yz z0 1 z1 z2 1 z3 z4 1 z5 z6 1 z7 z8 1 z9 za 1 zb
    zc 1 zd ze 1 zf zg 1 zh zi 1 zj zk 1 zl zm 1 zn zo 1 zp zq 1 zr zs 1 zt zu 1 zv zw 1 zx zy
    1 zz 100 1 101 102 1 103 104 1 105 106 1 107 108 1 109 10a 1 10b 10c 1 10d 10e 1 10f 10g 1
    10h 10i 1 10j 10k 1 10l 10m 1 10n 10o 1 10p 10q 1 10r 10s 1 10t 10u 1 10v 10x 12 129 3a8 12
    8w0 3bb 1 8x3 3bh 1 8x9 3y0 6 3xs 5mo 1 tu 5mp 1 tw 5mq 1 u6 5mr 2 u9 5mt 1 ua 5mu 1 ui 5mv
    1 v7 5mw 1 wuj 5n4 17 3bk 5od 3 3ct 5xc 1 5xd 5xe 1 5xf 5xg 1 5xh 5xi 1 5xj 5xk 1 5xl 5xm 1
    5xn 5xo 1 5xp 5xq 1 5xr 5xs 1 5xt 5xu 1 5xv 5xw 1 5xx 5xy 1 5xz 5y0 1 5y1 5y2 1 5y3 5y4 1
    5y5 5y6 1 5y7 5y8 1 5y9 5ya 1 5yb 5yc 1 5yd 5ye 1 5yf 5yg 1 5yh 5yi 1 5yj 5yk 1 5yl 5ym 1
    5yn 5yo 1 5yp 5yq 1 5yr 5ys 1 5yt 5yu 1 5yv 5yw 1 5yx 5yy 1 5yz 5z0 1 5z1 5z2 1 5z3 5z4 1
    5z5 5z6 1 5z7 5z8 1 5z9 5za 1 5zb 5zc 1 5zd 5ze 1 5zf 5zg 1 5zh 5zi 1 5zj 5zk 1 5zl 5zm 1
    5zn 5zo 1 5zp 5zq 1 5zr 5zs 1 5zt 5zu 1 5zv 5zw 1 5zx 5zy 1 5zz 600 1 601 602 1 603 604 1
    605 606 1 607 608 1 609 60a 1 60b 60c 1 60d 60e 1 60f 60g 1 60h 60i 1 60j 60k 1 60l 60m 1
    60n 60o 1 60p 60q 1 60r 60s 1 60t 60u 1 60v 60w 1 60x 60y 1 60z 610 1 611 612 1 613 614 1
    615 616 1 617 618 1 619 61a 1 61b 61c 1 61d 61e 1 61f 61g 1 61h 61n 1 601 61q 1 67 61s 1
    61t 61u 1 61v 61w 1 61x 61y 1 61z 620 1 621 622 1 623 624 1 625 626 1 627 628 1 629 62a 1
    62b 62c 1 62d 62e 1 62f 62g 1 62h 62i 1 62j 62k 1 62l 62m 1 62n 62o 1 62p 62q 1 62r 62s 1
    62t 62u 1 62v 62w 1 62x 62y 1 62z 630 1 631 632 1 633 634 1 635 636 1 637 638 1 639 63a 1
    63b 63c 1 63d 63e 1 63f 63g 1 63h 63i 1 63j 63k 1 63l 63m 1 63n 63o 1 63p 63q 1 63r 63s 1
    63t 63u 1 63v 63w 1 63x 63y 1 63z 640 1 641 642 1 643 644 1 645 646 1 647 648 1 649 64a 1
    64b 64c 1 64d 64e 1 64f 64o 8 64g 654 6 64w 65k 8 65c 660 8 65s 66g 6 668 66x 1 66p 66z 1
    66r 671 1 66t 673 1 66v 67c 8 674 688 8 680 68o 8 68g 694 8 68w 69k 2 69c 69m 2 67k 69o 1
    69f 69q 1 qh 6a0 4 67m 6a4 1 69v 6ag 2 6a8 6ai 2 67q 6aw 2 6ao 6ay 2 67u 6b0 1 6at 6bc 2
    67s 6be 2 67w 6bg 1 6b7 6jq 1 qx 6ju 1 2z 6jv 1 6d 6k2 1 6ku 6lc g 6ls 6mb 1 6mc 792 q 79s
    8ow 1c 8q8 8rk 1 8rl 8rm 1 h7 8rn 1 5tp 8ro 1 hp 8rr 1 8rs 8rt 1 8ru 8rv 1 8rw 8rx 1 gh 8ry
    1 hd 8rz 1 gg 8s0 1 gi 8s2 1 8s3 8s5 1 8s6 8se 2 fz 8sg 1 8sh 8si 1 8sj 8sk 1 8sl 8sm 1 8sn
    8so 1 8sp 8sq 1 8sr 8ss 1 8st 8su 1 8sv 8sw 1 8sx 8sy 1 8sz 8t0 1 8t1 8t2 1 8t3 8t4 1 8t5
    8t6 1 8t7 8t8 1 8t9 8ta 1 8tb 8tc 1 8td 8te 1 8tf 8tg 1 8th 8ti 1 8tj 8tk 1 8tl 8tm 1 8tn
    8to 1 8tp 8tq 1 8tr 8ts 1 8tt 8tu 1 8tv 8tw 1 8tx 8ty 1 8tz 8u0 1 8u1 8u2 1 8u3 8u4 1 8u5
    8u6 1 8u7 8u8 1 8u9 8ua 1 8ub 8uc 1 8ud 8ue 1 8uf 8ug 1 8uh 8ui 1 8uj 8uk 1 8ul 8um 1 8un
    8uo 1 8up 8uq 1 8ur 8us 1 8ut 8uu 1 8uv 8uw 1 8ux 8uy 1 8uz 8v0 1 8v1 8v2 1 8v3 8v4 1 8v5
    8v6 1 8v7 8vf 1 8vg 8vh 1 8vi 8vm 1 8vn wu8 1 wu9 wua 1 wub wuc 1 wud wue 1 wuf wug 1 wuh
    wui 1 wuj wuk 1 wul wum 1 wun wuo 1 wup wuq 1 wur wus 1 wut wuu 1 wuv wuw 1 wux wuy 1 wuz
    wv0 1 wv1 wv2 1 wv3 wv4 1 wv5 wv6 1 wv7 wv8 1 wv9 wva 1 wvb wvc 1 wvd wve 1 wvf wvg 1 wvh
    ww0 1 ww1 ww2 1 ww3 ww4 1 ww5 ww6 1 ww7 ww8 1 ww9 wwa 1 wwb wwc 1 wwd wwe 1 wwf wwg 1 wwh
    wwi 1 wwj wwk 1 wwl wwm 1 wwn wwo 1 wwp wwq 1 wwr x0i 1 x0j x0k 1 x0l x0m 1 x0n x0o 1 x0p
    x0q 1 x0r x0s 1 x0t x0u 1 x0v x0y 1 x0z x10 1 x11 x12 1 x13 x14 1 x15 x16 1 x17 x18 1 x19
    x1a 1 x1b x1c 1 x1d x1e 1 x1f x1g 1 x1h x1i 1 x1j x1k 1 x1l x1m 1 x1n x1o 1 x1p x1q 1 x1r
    x1s 1 x1t x1u 1 x1v x1w 1 x1x x1y 1 x1z x20 1 x21 x22 1 x23 x24 1 x25 x26 1 x27 x28 1 x29
    x2a 1 x2b x2c 1 x2d x2e 1 x2f x2g 1 x2h x2i 1 x2j x2k 1 x2l x2m 1 x2n x2x 1 x2y x2z 1 x30
    x31 1 5tl x32 1 x33 x34 1 x35 x36 1 x37 x38 1 x39 x3a 1 x3b x3f 1 x3g x3h 1 h1 x3k 1 x3l
    x3m 1 x3n x3q 1 x3r x3s 1 x3t x3u 1 x3v x3w 1 x3x x3y 1 x3z x40 1 x41 x42 1 x43 x44 1 x45
    x46 1 x47 x48 1 x49 x4a 1 h2 x4b 1 gs x4c 1 gx x4d 1 h8 x4e 1 h6 x4g 1 im x4h 1 hz x4i 1 il
    x4j 1 xub x4k 1 x4l x4m 1 x4n x4o 1 x4p x4q 1 x4r x4s 1 x4t x4u 1 x4v x4w 1 x4x x4y 1 x4z
    x50 1 x3o x51 1 hu x52 1 5u6 x53 1 x54 x55 1 x56 x5c 1 x5d x5i 1 x5j x5k 1 x5l x6d 1 x6e
    xv4 28 3vk 1ee9 q 1ef5 1fcw 14 1fe0 1fhs 10 1fiw 1fn4 b 1fo7 1fng f 1foj 1fnw 7 1foz 1fo4 2
    1fp7 1h1c 1f 1h34 1jfk w 1jgg 20cg w 20dc 2olc y 2oma"

/-- The code point that a code point folds to. -/
def foldPoint (n : Nat) : Nat :=
  match foldRuns.find? fun r => r.1 ≤ n && n < r.1 + r.2.1 with
  | some r => r.2.2 + (n - r.1)
  | none => n

/-- The characters that fold to the same one as `c`. -/
def caseVariants (c : Char) : List Char :=
  let f := foldPoint c.toNat
  Char.ofNat f :: foldRuns.filterMap fun r =>
    if r.2.2 ≤ f && f < r.2.2 + r.2.1 then some (Char.ofNat (r.1 + (f - r.2.2))) else none

end PolicyLint.Text
