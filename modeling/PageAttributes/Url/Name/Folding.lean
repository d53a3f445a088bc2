/-
**What a character of a domain name is written for.**

Names are compared without case, width or style. Most of the characters that are written in another
way are written for one character; the tables here hold those that are written for a text.

* `fold` — what a character is written for;
* `isKept` — the character stands for itself.
-/

import PageAttributes.Url.Name.Repertoire
import PageAttributes.Url.Name.Styles

namespace PageAttributes.Url.Name

/-- Characters that are written for a text. -/
def expansions : List (Nat × String) := [
  (0xa8, " \u0308"), (0xaf, " \u0304"), (0xb4, " \u0301"), (0xb8, " \u0327"), (0xbc, "1\u20444"),
  (0xbd, "1\u20442"), (0xbe, "3\u20444"), (0x130, "i\u0307"), (0x132, "ij"), (0x133, "ij"),
  (0x13f, "l\u00b7"), (0x140, "l\u00b7"), (0x149, "\u02bcn"), (0x1c4, "d\u017e"),
  (0x1c5, "d\u017e"), (0x1c6, "d\u017e"), (0x1c7, "lj"), (0x1c8, "lj"), (0x1c9, "lj"),
  (0x1ca, "nj"), (0x1cb, "nj"), (0x1cc, "nj"), (0x1f1, "dz"), (0x1f2, "dz"), (0x1f3, "dz"),
  (0x2d8, " \u0306"), (0x2d9, " \u0307"), (0x2da, " \u030a"), (0x2db, " \u0328"),
  (0x2dc, " \u0303"), (0x2dd, " \u030b"), (0x345, "\u03b9"), (0x37a, " \u03b9"), (0x384, " \u0301"),
  (0x385, " \u0308\u0301"), (0xe33, "\u0e4d\u0e32"), (0xeb3, "\u0ecd\u0eb2"), (0x1e9a, "a\u02be"),
  (0x1fbd, " \u0313"), (0x1fbf, " \u0313"), (0x1fc0, " \u0342"), (0x1fc1, " \u0308\u0342"),
  (0x1fcd, " \u0313\u0300"), (0x1fce, " \u0313\u0301"), (0x1fcf, " \u0313\u0342"),
  (0x1fdd, " \u0314\u0300"), (0x1fde, " \u0314\u0301"), (0x1fdf, " \u0314\u0342"),
  (0x1fed, " \u0308\u0300"), (0x1fee, " \u0308\u0301"), (0x1ffd, " \u0301"), (0x1ffe, " \u0314"),
  (0x2017, " \u0333"), (0x203c, "!!"), (0x203e, " \u0305"), (0x2047, "??"), (0x2048, "?!"),
  (0x2049, "!?"), (0x20a8, "rs"), (0x2100, "a/c"), (0x2101, "a/s"), (0x2103, "\u00b0c"),
  (0x2105, "c/o"), (0x2106, "c/u"), (0x2109, "\u00b0f"), (0x2116, "no"), (0x2120, "sm"),
  (0x2121, "tel"), (0x2122, "tm"), (0x2135, "\u05d0"), (0x2136, "\u05d1"), (0x2137, "\u05d2"),
  (0x2138, "\u05d3"), (0x213b, "fax"), (0x2150, "1\u20447"), (0x2151, "1\u20449"),
  (0x2152, "1\u204410"), (0x2153, "1\u20443"), (0x2154, "2\u20443"), (0x2155, "1\u20445"),
  (0x2156, "2\u20445"), (0x2157, "3\u20445"), (0x2158, "4\u20445"), (0x2159, "1\u20446"),
  (0x215a, "5\u20446"), (0x215b, "1\u20448"), (0x215c, "3\u20448"), (0x215d, "5\u20448"),
  (0x215e, "7\u20448"), (0x215f, "1\u2044"), (0x2161, "ii"), (0x2162, "iii"), (0x2163, "iv"),
  (0x2165, "vi"), (0x2166, "vii"), (0x2167, "viii"), (0x2168, "ix"), (0x216a, "xi"),
  (0x216b, "xii"), (0x2171, "ii"), (0x2172, "iii"), (0x2173, "iv"), (0x2175, "vi"), (0x2176, "vii"),
  (0x2177, "viii"), (0x2178, "ix"), (0x217a, "xi"), (0x217b, "xii"), (0x2189, "0\u20443"),
  (0x2469, "10"), (0x246a, "11"), (0x246b, "12"), (0x246c, "13"), (0x246d, "14"), (0x246e, "15"),
  (0x246f, "16"), (0x2470, "17"), (0x2471, "18"), (0x2472, "19"), (0x2473, "20"), (0x2474, "(1)"),
  (0x2475, "(2)"), (0x2476, "(3)"), (0x2477, "(4)"), (0x2478, "(5)"), (0x2479, "(6)"),
  (0x247a, "(7)"), (0x247b, "(8)"), (0x247c, "(9)"), (0x247d, "(10)"), (0x247e, "(11)"),
  (0x247f, "(12)"), (0x2480, "(13)"), (0x2481, "(14)"), (0x2482, "(15)"), (0x2483, "(16)"),
  (0x2484, "(17)"), (0x2485, "(18)"), (0x2486, "(19)"), (0x2487, "(20)"), (0x249c, "(a)"),
  (0x249d, "(b)"), (0x249e, "(c)"), (0x249f, "(d)"), (0x24a0, "(e)"), (0x24a1, "(f)"),
  (0x24a2, "(g)"), (0x24a3, "(h)"), (0x24a4, "(i)"), (0x24a5, "(j)"), (0x24a6, "(k)"),
  (0x24a7, "(l)"), (0x24a8, "(m)"), (0x24a9, "(n)"), (0x24aa, "(o)"), (0x24ab, "(p)"),
  (0x24ac, "(q)"), (0x24ad, "(r)"), (0x24ae, "(s)"), (0x24af, "(t)"), (0x24b0, "(u)"),
  (0x24b1, "(v)"), (0x24b2, "(w)"), (0x24b3, "(x)"), (0x24b4, "(y)"), (0x24b5, "(z)"),
  (0x2a74, "::="), (0x2a75, "=="), (0x2a76, "==="), (0x309b, " \u3099"), (0x309c, " \u309a"),
  (0x3200, "(\u1100)"), (0x3201, "(\u1102)"), (0x3202, "(\u1103)"), (0x3203, "(\u1105)"),
  (0x3204, "(\u1106)"), (0x3205, "(\u1107)"), (0x3206, "(\u1109)"), (0x3207, "(\u110b)"),
  (0x3208, "(\u110c)"), (0x3209, "(\u110e)"), (0x320a, "(\u110f)"), (0x320b, "(\u1110)"),
  (0x320c, "(\u1111)"), (0x320d, "(\u1112)"), (0x320e, "(\uac00)"), (0x320f, "(\ub098)"),
  (0x3210, "(\ub2e4)"), (0x3211, "(\ub77c)"), (0x3212, "(\ub9c8)"), (0x3213, "(\ubc14)"),
  (0x3214, "(\uc0ac)"), (0x3215, "(\uc544)"), (0x3216, "(\uc790)"), (0x3217, "(\ucc28)"),
  (0x3218, "(\uce74)"), (0x3219, "(\ud0c0)"), (0x321a, "(\ud30c)"), (0x321b, "(\ud558)"),
  (0x321c, "(\uc8fc)"), (0x321d, "(\uc624\uc804)"), (0x321e, "(\uc624\ud6c4)"),
  (0x3220, "(\u4e00)"), (0x3221, "(\u4e8c)"), (0x3222, "(\u4e09)"), (0x3223, "(\u56db)"),
  (0x3224, "(\u4e94)"), (0x3225, "(\u516d)"), (0x3226, "(\u4e03)"), (0x3227, "(\u516b)"),
  (0x3228, "(\u4e5d)"), (0x3229, "(\u5341)"), (0x322a, "(\u6708)"), (0x322b, "(\u706b)"),
  (0x322c, "(\u6c34)"), (0x322d, "(\u6728)"), (0x322e, "(\u91d1)"), (0x322f, "(\u571f)"),
  (0x3230, "(\u65e5)"), (0x3231, "(\u682a)"), (0x3232, "(\u6709)"), (0x3233, "(\u793e)"),
  (0x3234, "(\u540d)"), (0x3235, "(\u7279)"), (0x3236, "(\u8ca1)"), (0x3237, "(\u795d)"),
  (0x3238, "(\u52b4)"), (0x3239, "(\u4ee3)"), (0x323a, "(\u547c)"), (0x323b, "(\u5b66)"),
  (0x323c, "(\u76e3)"), (0x323d, "(\u4f01)"), (0x323e, "(\u8cc7)"), (0x323f, "(\u5354)"),
  (0x3240, "(\u796d)"), (0x3241, "(\u4f11)"), (0x3242, "(\u81ea)"), (0x3243, "(\u81f3)"),
  (0x3250, "pte"), (0x3251, "21"), (0x3252, "22"), (0x3253, "23"), (0x3254, "24"), (0x3255, "25"),
  (0x3256, "26"), (0x3257, "27"), (0x3258, "28"), (0x3259, "29"), (0x325a, "30"), (0x325b, "31"),
  (0x325c, "32"), (0x325d, "33"), (0x325e, "34"), (0x325f, "35"), (0x32b1, "36"), (0x32b2, "37"),
  (0x32b3, "38"), (0x32b4, "39"), (0x32b5, "40"), (0x32b6, "41"), (0x32b7, "42"), (0x32b8, "43"),
  (0x32b9, "44"), (0x32ba, "45"), (0x32bb, "46"), (0x32bc, "47"), (0x32bd, "48"), (0x32be, "49"),
  (0x32bf, "50"), (0x32c0, "1\u6708"), (0x32c1, "2\u6708"), (0x32c2, "3\u6708"),
  (0x32c3, "4\u6708"), (0x32c4, "5\u6708"), (0x32c5, "6\u6708"), (0x32c6, "7\u6708"),
  (0x32c7, "8\u6708"), (0x32c8, "9\u6708"), (0x32c9, "10\u6708"), (0x32ca, "11\u6708"),
  (0x32cb, "12\u6708"), (0x32cc, "hg"), (0x32cd, "erg"), (0x32ce, "ev"), (0x32cf, "ltd"),
  (0x3358, "0\u70b9"), (0x3359, "1\u70b9"), (0x335a, "2\u70b9"), (0x335b, "3\u70b9"),
  (0x335c, "4\u70b9"), (0x335d, "5\u70b9"), (0x335e, "6\u70b9"), (0x335f, "7\u70b9"),
  (0x3360, "8\u70b9"), (0x3361, "9\u70b9"), (0x3362, "10\u70b9"), (0x3363, "11\u70b9"),
  (0x3364, "12\u70b9"), (0x3365, "13\u70b9"), (0x3366, "14\u70b9"), (0x3367, "15\u70b9"),
  (0x3368, "16\u70b9"), (0x3369, "17\u70b9"), (0x336a, "18\u70b9"), (0x336b, "19\u70b9"),
  (0x336c, "20\u70b9"), (0x336d, "21\u70b9"), (0x336e, "22\u70b9"), (0x336f, "23\u70b9"),
  (0x3370, "24\u70b9"), (0x3371, "hpa"), (0x3372, "da"), (0x3373, "au"), (0x3374, "bar"),
  (0x3375, "ov"), (0x3376, "pc"), (0x3377, "dm"), (0x3378, "dm2"), (0x3379, "dm3"), (0x337a, "iu"),
  (0x3380, "pa"), (0x3381, "na"), (0x3382, "\u03bca"), (0x3383, "ma"), (0x3384, "ka"),
  (0x3385, "kb"), (0x3386, "mb"), (0x3387, "gb"), (0x3388, "cal"), (0x3389, "kcal"), (0x338a, "pf"),
  (0x338b, "nf"), (0x338c, "\u03bcf"), (0x338d, "\u03bcg"), (0x338e, "mg"), (0x338f, "kg"),
  (0x3390, "hz"), (0x3391, "khz"), (0x3392, "mhz"), (0x3393, "ghz"), (0x3394, "thz"),
  (0x3395, "\u03bcl"), (0x3396, "ml"), (0x3397, "dl"), (0x3398, "kl"), (0x3399, "fm"),
  (0x339a, "nm"), (0x339b, "\u03bcm"), (0x339c, "mm"), (0x339d, "cm"), (0x339e, "km"),
  (0x339f, "mm2"), (0x33a0, "cm2"), (0x33a1, "m2"), (0x33a2, "km2"), (0x33a3, "mm3"),
  (0x33a4, "cm3"), (0x33a5, "m3"), (0x33a6, "km3"), (0x33a7, "m\u2215s"), (0x33a8, "m\u2215s2"),
  (0x33a9, "pa"), (0x33aa, "kpa"), (0x33ab, "mpa"), (0x33ac, "gpa"), (0x33ad, "rad"),
  (0x33ae, "rad\u2215s"), (0x33af, "rad\u2215s2"), (0x33b0, "ps"), (0x33b1, "ns"),
  (0x33b2, "\u03bcs"), (0x33b3, "ms"), (0x33b4, "pv"), (0x33b5, "nv"), (0x33b6, "\u03bcv"),
  (0x33b7, "mv"), (0x33b8, "kv"), (0x33b9, "mv"), (0x33ba, "pw"), (0x33bb, "nw"),
  (0x33bc, "\u03bcw"), (0x33bd, "mw"), (0x33be, "kw"), (0x33bf, "mw"), (0x33c0, "k\u03c9"),
  (0x33c1, "m\u03c9"), (0x33c3, "bq"), (0x33c4, "cc"), (0x33c5, "cd"), (0x33c6, "c\u2215kg"),
  (0x33c8, "db"), (0x33c9, "gy"), (0x33ca, "ha"), (0x33cb, "hp"), (0x33cc, "in"), (0x33cd, "kk"),
  (0x33ce, "km"), (0x33cf, "kt"), (0x33d0, "lm"), (0x33d1, "ln"), (0x33d2, "log"), (0x33d3, "lx"),
  (0x33d4, "mb"), (0x33d5, "mil"), (0x33d6, "mol"), (0x33d7, "ph"), (0x33d9, "ppm"), (0x33da, "pr"),
  (0x33db, "sr"), (0x33dc, "sv"), (0x33dd, "wb"), (0x33de, "v\u2215m"), (0x33df, "a\u2215m"),
  (0x33e0, "1\u65e5"), (0x33e1, "2\u65e5"), (0x33e2, "3\u65e5"), (0x33e3, "4\u65e5"),
  (0x33e4, "5\u65e5"), (0x33e5, "6\u65e5"), (0x33e6, "7\u65e5"), (0x33e7, "8\u65e5"),
  (0x33e8, "9\u65e5"), (0x33e9, "10\u65e5"), (0x33ea, "11\u65e5"), (0x33eb, "12\u65e5"),
  (0x33ec, "13\u65e5"), (0x33ed, "14\u65e5"), (0x33ee, "15\u65e5"), (0x33ef, "16\u65e5"),
  (0x33f0, "17\u65e5"), (0x33f1, "18\u65e5"), (0x33f2, "19\u65e5"), (0x33f3, "20\u65e5"),
  (0x33f4, "21\u65e5"), (0x33f5, "22\u65e5"), (0x33f6, "23\u65e5"), (0x33f7, "24\u65e5"),
  (0x33f8, "25\u65e5"), (0x33f9, "26\u65e5"), (0x33fa, "27\u65e5"), (0x33fb, "28\u65e5"),
  (0x33fc, "29\u65e5"), (0x33fd, "30\u65e5"), (0x33fe, "31\u65e5"), (0x33ff, "gal"), (0xfb00, "ff"),
  (0xfb01, "fi"), (0xfb02, "fl"), (0xfb03, "ffi"), (0xfb04, "ffl"), (0xfb05, "st"), (0xfb06, "st"),
  (0xfc5e, " \u064c\u0651"), (0xfc5f, " \u064d\u0651"), (0xfc60, " \u064e\u0651"),
  (0xfc61, " \u064f\u0651"), (0xfc62, " \u0650\u0651"), (0xfc63, " \u0651\u0670"),
  (0xfdfa, "\u0635\u0644\u0649 \u0627\u0644\u0644\u0647 \u0639\u0644\u064a\u0647 \u0648\u0633\u0644\u0645"),
  (0xfdfb, "\u062c\u0644 \u062c\u0644\u0627\u0644\u0647"), (0xfe49, " \u0305"), (0xfe4a, " \u0305"),
  (0xfe4b, " \u0305"), (0xfe4c, " \u0305"), (0xfe70, " \u064b"), (0xfe72, " \u064c"),
  (0xfe74, " \u064d"), (0xfe76, " \u064e"), (0xfe78, " \u064f"), (0xfe7a, " \u0650"),
  (0xfe7c, " \u0651"), (0xfe7e, " \u0652"), (0xff9e, "\u3099"), (0xff9f, "\u309a"),
  (0xffe3, " \u0304"), (0x1f101, "0,"), (0x1f102, "1,"), (0x1f103, "2,"), (0x1f104, "3,"),
  (0x1f105, "4,"), (0x1f106, "5,"), (0x1f107, "6,"), (0x1f108, "7,"), (0x1f109, "8,"),
  (0x1f10a, "9,"), (0x1f110, "(a)"), (0x1f111, "(b)"), (0x1f112, "(c)"), (0x1f113, "(d)"),
  (0x1f114, "(e)"), (0x1f115, "(f)"), (0x1f116, "(g)"), (0x1f117, "(h)"), (0x1f118, "(i)"),
  (0x1f119, "(j)"), (0x1f11a, "(k)"), (0x1f11b, "(l)"), (0x1f11c, "(m)"), (0x1f11d, "(n)"),
  (0x1f11e, "(o)"), (0x1f11f, "(p)"), (0x1f120, "(q)"), (0x1f121, "(r)"), (0x1f122, "(s)"),
  (0x1f123, "(t)"), (0x1f124, "(u)"), (0x1f125, "(v)"), (0x1f126, "(w)"), (0x1f127, "(x)"),
  (0x1f128, "(y)"), (0x1f129, "(z)"), (0x1f12a, "\u3014s\u3015"), (0x1f12d, "cd"), (0x1f12e, "wz"),
  (0x1f14a, "hv"), (0x1f14b, "mv"), (0x1f14c, "sd"), (0x1f14d, "ss"), (0x1f14e, "ppv"),
  (0x1f14f, "wc"), (0x1f16a, "mc"), (0x1f16b, "md"), (0x1f16c, "mr"), (0x1f190, "dj")]

/-- Characters that are written for a text outside ASCII. -/
def ligatures : List (Nat × String) := [
  (0x587, "\u0565\u0582"), (0x675, "\u0627\u0674"), (0x676, "\u0648\u0674"),
  (0x677, "\u06c7\u0674"), (0x678, "\u064a\u0674"), (0xedc, "\u0eab\u0e99"),
  (0xedd, "\u0eab\u0ea1"), (0xf77, "\u0fb2\u0f71\u0f80"), (0xf79, "\u0fb3\u0f71\u0f80"),
  (0x1f80, "\u1f00\u03b9"), (0x1f81, "\u1f01\u03b9"), (0x1f82, "\u1f02\u03b9"),
  (0x1f83, "\u1f03\u03b9"), (0x1f84, "\u1f04\u03b9"), (0x1f85, "\u1f05\u03b9"),
  (0x1f86, "\u1f06\u03b9"), (0x1f87, "\u1f07\u03b9"), (0x1f88, "\u1f00\u03b9"),
  (0x1f89, "\u1f01\u03b9"), (0x1f8a, "\u1f02\u03b9"), (0x1f8b, "\u1f03\u03b9"),
  (0x1f8c, "\u1f04\u03b9"), (0x1f8d, "\u1f05\u03b9"), (0x1f8e, "\u1f06\u03b9"),
  (0x1f8f, "\u1f07\u03b9"), (0x1f90, "\u1f20\u03b9"), (0x1f91, "\u1f21\u03b9"),
  (0x1f92, "\u1f22\u03b9"), (0x1f93, "\u1f23\u03b9"), (0x1f94, "\u1f24\u03b9"),
  (0x1f95, "\u1f25\u03b9"), (0x1f96, "\u1f26\u03b9"), (0x1f97, "\u1f27\u03b9"),
  (0x1f98, "\u1f20\u03b9"), (0x1f99, "\u1f21\u03b9"), (0x1f9a, "\u1f22\u03b9"),
  (0x1f9b, "\u1f23\u03b9"), (0x1f9c, "\u1f24\u03b9"), (0x1f9d, "\u1f25\u03b9"),
  (0x1f9e, "\u1f26\u03b9"), (0x1f9f, "\u1f27\u03b9"), (0x1fa0, "\u1f60\u03b9"),
  (0x1fa1, "\u1f61\u03b9"), (0x1fa2, "\u1f62\u03b9"), (0x1fa3, "\u1f63\u03b9"),
  (0x1fa4, "\u1f64\u03b9"), (0x1fa5, "\u1f65\u03b9"), (0x1fa6, "\u1f66\u03b9"),
  (0x1fa7, "\u1f67\u03b9"), (0x1fa8, "\u1f60\u03b9"), (0x1fa9, "\u1f61\u03b9"),
  (0x1faa, "\u1f62\u03b9"), (0x1fab, "\u1f63\u03b9"), (0x1fac, "\u1f64\u03b9"),
  (0x1fad, "\u1f65\u03b9"), (0x1fae, "\u1f66\u03b9"), (0x1faf, "\u1f67\u03b9"),
  (0x1fb2, "\u1f70\u03b9"), (0x1fb3, "\u03b1\u03b9"), (0x1fb4, "\u03ac\u03b9"),
  (0x1fb7, "\u1fb6\u03b9"), (0x1fbc, "\u03b1\u03b9"), (0x1fc2, "\u1f74\u03b9"),
  (0x1fc3, "\u03b7\u03b9"), (0x1fc4, "\u03ae\u03b9"), (0x1fc7, "\u1fc6\u03b9"),
  (0x1fcc, "\u03b7\u03b9"), (0x1ff2, "\u1f7c\u03b9"), (0x1ff3, "\u03c9\u03b9"),
  (0x1ff4, "\u03ce\u03b9"), (0x1ff7, "\u1ff6\u03b9"), (0x1ffc, "\u03c9\u03b9"),
  (0x2033, "\u2032\u2032"), (0x2034, "\u2032\u2032\u2032"), (0x2036, "\u2035\u2035"),
  (0x2037, "\u2035\u2035\u2035"), (0x2057, "\u2032\u2032\u2032\u2032"), (0x222c, "\u222b\u222b"),
  (0x222d, "\u222b\u222b\u222b"), (0x222f, "\u222e\u222e"), (0x2230, "\u222e\u222e\u222e"),
  (0x2a0c, "\u222b\u222b\u222b\u222b"), (0x309f, "\u3088\u308a"), (0x30ff, "\u30b3\u30c8"),
  (0x327c, "\ucc38\uace0"), (0x327d, "\uc8fc\uc758"), (0x32ff, "\u4ee4\u548c"),
  (0x3300, "\u30a2\u30d1\u30fc\u30c8"), (0x3301, "\u30a2\u30eb\u30d5\u30a1"),
  (0x3302, "\u30a2\u30f3\u30da\u30a2"), (0x3303, "\u30a2\u30fc\u30eb"),
  (0x3304, "\u30a4\u30cb\u30f3\u30b0"), (0x3305, "\u30a4\u30f3\u30c1"),
  (0x3306, "\u30a6\u30a9\u30f3"), (0x3307, "\u30a8\u30b9\u30af\u30fc\u30c9"),
  (0x3308, "\u30a8\u30fc\u30ab\u30fc"), (0x3309, "\u30aa\u30f3\u30b9"),
  (0x330a, "\u30aa\u30fc\u30e0"), (0x330b, "\u30ab\u30a4\u30ea"),
  (0x330c, "\u30ab\u30e9\u30c3\u30c8"), (0x330d, "\u30ab\u30ed\u30ea\u30fc"),
  (0x330e, "\u30ac\u30ed\u30f3"), (0x330f, "\u30ac\u30f3\u30de"), (0x3310, "\u30ae\u30ac"),
  (0x3311, "\u30ae\u30cb\u30fc"), (0x3312, "\u30ad\u30e5\u30ea\u30fc"),
  (0x3313, "\u30ae\u30eb\u30c0\u30fc"), (0x3314, "\u30ad\u30ed"),
  (0x3315, "\u30ad\u30ed\u30b0\u30e9\u30e0"), (0x3316, "\u30ad\u30ed\u30e1\u30fc\u30c8\u30eb"),
  (0x3317, "\u30ad\u30ed\u30ef\u30c3\u30c8"), (0x3318, "\u30b0\u30e9\u30e0"),
  (0x3319, "\u30b0\u30e9\u30e0\u30c8\u30f3"), (0x331a, "\u30af\u30eb\u30bc\u30a4\u30ed"),
  (0x331b, "\u30af\u30ed\u30fc\u30cd"), (0x331c, "\u30b1\u30fc\u30b9"),
  (0x331d, "\u30b3\u30eb\u30ca"), (0x331e, "\u30b3\u30fc\u30dd"),
  (0x331f, "\u30b5\u30a4\u30af\u30eb"), (0x3320, "\u30b5\u30f3\u30c1\u30fc\u30e0"),
  (0x3321, "\u30b7\u30ea\u30f3\u30b0"), (0x3322, "\u30bb\u30f3\u30c1"),
  (0x3323, "\u30bb\u30f3\u30c8"), (0x3324, "\u30c0\u30fc\u30b9"), (0x3325, "\u30c7\u30b7"),
  (0x3326, "\u30c9\u30eb"), (0x3327, "\u30c8\u30f3"), (0x3328, "\u30ca\u30ce"),
  (0x3329, "\u30ce\u30c3\u30c8"), (0x332a, "\u30cf\u30a4\u30c4"),
  (0x332b, "\u30d1\u30fc\u30bb\u30f3\u30c8"), (0x332c, "\u30d1\u30fc\u30c4"),
  (0x332d, "\u30d0\u30fc\u30ec\u30eb"), (0x332e, "\u30d4\u30a2\u30b9\u30c8\u30eb"),
  (0x332f, "\u30d4\u30af\u30eb"), (0x3330, "\u30d4\u30b3"), (0x3331, "\u30d3\u30eb"),
  (0x3332, "\u30d5\u30a1\u30e9\u30c3\u30c9"), (0x3333, "\u30d5\u30a3\u30fc\u30c8"),
  (0x3334, "\u30d6\u30c3\u30b7\u30a7\u30eb"), (0x3335, "\u30d5\u30e9\u30f3"),
  (0x3336, "\u30d8\u30af\u30bf\u30fc\u30eb"), (0x3337, "\u30da\u30bd"),
  (0x3338, "\u30da\u30cb\u30d2"), (0x3339, "\u30d8\u30eb\u30c4"), (0x333a, "\u30da\u30f3\u30b9"),
  (0x333b, "\u30da\u30fc\u30b8"), (0x333c, "\u30d9\u30fc\u30bf"),
  (0x333d, "\u30dd\u30a4\u30f3\u30c8"), (0x333e, "\u30dc\u30eb\u30c8"), (0x333f, "\u30db\u30f3"),
  (0x3340, "\u30dd\u30f3\u30c9"), (0x3341, "\u30db\u30fc\u30eb"), (0x3342, "\u30db\u30fc\u30f3"),
  (0x3343, "\u30de\u30a4\u30af\u30ed"), (0x3344, "\u30de\u30a4\u30eb"),
  (0x3345, "\u30de\u30c3\u30cf"), (0x3346, "\u30de\u30eb\u30af"),
  (0x3347, "\u30de\u30f3\u30b7\u30e7\u30f3"), (0x3348, "\u30df\u30af\u30ed\u30f3"),
  (0x3349, "\u30df\u30ea"), (0x334a, "\u30df\u30ea\u30d0\u30fc\u30eb"), (0x334b, "\u30e1\u30ac"),
  (0x334c, "\u30e1\u30ac\u30c8\u30f3"), (0x334d, "\u30e1\u30fc\u30c8\u30eb"),
  (0x334e, "\u30e4\u30fc\u30c9"), (0x334f, "\u30e4\u30fc\u30eb"), (0x3350, "\u30e6\u30a2\u30f3"),
  (0x3351, "\u30ea\u30c3\u30c8\u30eb"), (0x3352, "\u30ea\u30e9"), (0x3353, "\u30eb\u30d4\u30fc"),
  (0x3354, "\u30eb\u30fc\u30d6\u30eb"), (0x3355, "\u30ec\u30e0"),
  (0x3356, "\u30ec\u30f3\u30c8\u30b2\u30f3"), (0x3357, "\u30ef\u30c3\u30c8"),
  (0x337b, "\u5e73\u6210"), (0x337c, "\u662d\u548c"), (0x337d, "\u5927\u6b63"),
  (0x337e, "\u660e\u6cbb"), (0x337f, "\u682a\u5f0f\u4f1a\u793e"), (0xfb13, "\u0574\u0576"),
  (0xfb14, "\u0574\u0565"), (0xfb15, "\u0574\u056b"), (0xfb16, "\u057e\u0576"),
  (0xfb17, "\u0574\u056d"), (0xfb4f, "\u05d0\u05dc"), (0xfbdd, "\u06c7\u0674"),
  (0xfbea, "\u0626\u0627"), (0xfbeb, "\u0626\u0627"), (0xfbec, "\u0626\u06d5"),
  (0xfbed, "\u0626\u06d5"), (0xfbee, "\u0626\u0648"), (0xfbef, "\u0626\u0648"),
  (0xfbf0, "\u0626\u06c7"), (0xfbf1, "\u0626\u06c7"), (0xfbf2, "\u0626\u06c6"),
  (0xfbf3, "\u0626\u06c6"), (0xfbf4, "\u0626\u06c8"), (0xfbf5, "\u0626\u06c8"),
  (0xfbf6, "\u0626\u06d0"), (0xfbf7, "\u0626\u06d0"), (0xfbf8, "\u0626\u06d0"),
  (0xfbf9, "\u0626\u0649"), (0xfbfa, "\u0626\u0649"), (0xfbfb, "\u0626\u0649"),
  (0xfc00, "\u0626\u062c"), (0xfc01, "\u0626\u062d"), (0xfc02, "\u0626\u0645"),
  (0xfc03, "\u0626\u0649"), (0xfc04, "\u0626\u064a"), (0xfc05, "\u0628\u062c"),
  (0xfc06, "\u0628\u062d"), (0xfc07, "\u0628\u062e"), (0xfc08, "\u0628\u0645"),
  (0xfc09, "\u0628\u0649"), (0xfc0a, "\u0628\u064a"), (0xfc0b, "\u062a\u062c"),
  (0xfc0c, "\u062a\u062d"), (0xfc0d, "\u062a\u062e"), (0xfc0e, "\u062a\u0645"),
  (0xfc0f, "\u062a\u0649"), (0xfc10, "\u062a\u064a"), (0xfc11, "\u062b\u062c"),
  (0xfc12, "\u062b\u0645"), (0xfc13, "\u062b\u0649"), (0xfc14, "\u062b\u064a"),
  (0xfc15, "\u062c\u062d"), (0xfc16, "\u062c\u0645"), (0xfc17, "\u062d\u062c"),
  (0xfc18, "\u062d\u0645"), (0xfc19, "\u062e\u062c"), (0xfc1a, "\u062e\u062d"),
  (0xfc1b, "\u062e\u0645"), (0xfc1c, "\u0633\u062c"), (0xfc1d, "\u0633\u062d"),
  (0xfc1e, "\u0633\u062e"), (0xfc1f, "\u0633\u0645"), (0xfc20, "\u0635\u062d"),
  (0xfc21, "\u0635\u0645"), (0xfc22, "\u0636\u062c"), (0xfc23, "\u0636\u062d"),
  (0xfc24, "\u0636\u062e"), (0xfc25, "\u0636\u0645"), (0xfc26, "\u0637\u062d"),
  (0xfc27, "\u0637\u0645"), (0xfc28, "\u0638\u0645"), (0xfc29, "\u0639\u062c"),
  (0xfc2a, "\u0639\u0645"), (0xfc2b, "\u063a\u062c"), (0xfc2c, "\u063a\u0645"),
  (0xfc2d, "\u0641\u062c"), (0xfc2e, "\u0641\u062d"), (0xfc2f, "\u0641\u062e"),
  (0xfc30, "\u0641\u0645"), (0xfc31, "\u0641\u0649"), (0xfc32, "\u0641\u064a"),
  (0xfc33, "\u0642\u062d"), (0xfc34, "\u0642\u0645"), (0xfc35, "\u0642\u0649"),
  (0xfc36, "\u0642\u064a"), (0xfc37, "\u0643\u0627"), (0xfc38, "\u0643\u062c"),
  (0xfc39, "\u0643\u062d"), (0xfc3a, "\u0643\u062e"), (0xfc3b, "\u0643\u0644"),
  (0xfc3c, "\u0643\u0645"), (0xfc3d, "\u0643\u0649"), (0xfc3e, "\u0643\u064a"),
  (0xfc3f, "\u0644\u062c"), (0xfc40, "\u0644\u062d"), (0xfc41, "\u0644\u062e"),
  (0xfc42, "\u0644\u0645"), (0xfc43, "\u0644\u0649"), (0xfc44, "\u0644\u064a"),
  (0xfc45, "\u0645\u062c"), (0xfc46, "\u0645\u062d"), (0xfc47, "\u0645\u062e"),
  (0xfc48, "\u0645\u0645"), (0xfc49, "\u0645\u0649"), (0xfc4a, "\u0645\u064a"),
  (0xfc4b, "\u0646\u062c"), (0xfc4c, "\u0646\u062d"), (0xfc4d, "\u0646\u062e"),
  (0xfc4e, "\u0646\u0645"), (0xfc4f, "\u0646\u0649"), (0xfc50, "\u0646\u064a"),
  (0xfc51, "\u0647\u062c"), (0xfc52, "\u0647\u0645"), (0xfc53, "\u0647\u0649"),
  (0xfc54, "\u0647\u064a"), (0xfc55, "\u064a\u062c"), (0xfc56, "\u064a\u062d"),
  (0xfc57, "\u064a\u062e"), (0xfc58, "\u064a\u0645"), (0xfc59, "\u064a\u0649"),
  (0xfc5a, "\u064a\u064a"), (0xfc5b, "\u0630\u0670"), (0xfc5c, "\u0631\u0670"),
  (0xfc5d, "\u0649\u0670"), (0xfc64, "\u0626\u0631"), (0xfc65, "\u0626\u0632"),
  (0xfc66, "\u0626\u0645"), (0xfc67, "\u0626\u0646"), (0xfc68, "\u0626\u0649"),
  (0xfc69, "\u0626\u064a"), (0xfc6a, "\u0628\u0631"), (0xfc6b, "\u0628\u0632"),
  (0xfc6c, "\u0628\u0645"), (0xfc6d, "\u0628\u0646"), (0xfc6e, "\u0628\u0649"),
  (0xfc6f, "\u0628\u064a"), (0xfc70, "\u062a\u0631"), (0xfc71, "\u062a\u0632"),
  (0xfc72, "\u062a\u0645"), (0xfc73, "\u062a\u0646"), (0xfc74, "\u062a\u0649"),
  (0xfc75, "\u062a\u064a"), (0xfc76, "\u062b\u0631"), (0xfc77, "\u062b\u0632"),
  (0xfc78, "\u062b\u0645"), (0xfc79, "\u062b\u0646"), (0xfc7a, "\u062b\u0649"),
  (0xfc7b, "\u062b\u064a"), (0xfc7c, "\u0641\u0649"), (0xfc7d, "\u0641\u064a"),
  (0xfc7e, "\u0642\u0649"), (0xfc7f, "\u0642\u064a"), (0xfc80, "\u0643\u0627"),
  (0xfc81, "\u0643\u0644"), (0xfc82, "\u0643\u0645"), (0xfc83, "\u0643\u0649"),
  (0xfc84, "\u0643\u064a"), (0xfc85, "\u0644\u0645"), (0xfc86, "\u0644\u0649"),
  (0xfc87, "\u0644\u064a"), (0xfc88, "\u0645\u0627"), (0xfc89, "\u0645\u0645"),
  (0xfc8a, "\u0646\u0631"), (0xfc8b, "\u0646\u0632"), (0xfc8c, "\u0646\u0645"),
  (0xfc8d, "\u0646\u0646"), (0xfc8e, "\u0646\u0649"), (0xfc8f, "\u0646\u064a"),
  (0xfc90, "\u0649\u0670"), (0xfc91, "\u064a\u0631"), (0xfc92, "\u064a\u0632"),
  (0xfc93, "\u064a\u0645"), (0xfc94, "\u064a\u0646"), (0xfc95, "\u064a\u0649"),
  (0xfc96, "\u064a\u064a"), (0xfc97, "\u0626\u062c"), (0xfc98, "\u0626\u062d"),
  (0xfc99, "\u0626\u062e"), (0xfc9a, "\u0626\u0645"), (0xfc9b, "\u0626\u0647"),
  (0xfc9c, "\u0628\u062c"), (0xfc9d, "\u0628\u062d"), (0xfc9e, "\u0628\u062e"),
  (0xfc9f, "\u0628\u0645"), (0xfca0, "\u0628\u0647"), (0xfca1, "\u062a\u062c"),
  (0xfca2, "\u062a\u062d"), (0xfca3, "\u062a\u062e"), (0xfca4, "\u062a\u0645"),
  (0xfca5, "\u062a\u0647"), (0xfca6, "\u062b\u0645"), (0xfca7, "\u062c\u062d"),
  (0xfca8, "\u062c\u0645"), (0xfca9, "\u062d\u062c"), (0xfcaa, "\u062d\u0645"),
  (0xfcab, "\u062e\u062c"), (0xfcac, "\u062e\u0645"), (0xfcad, "\u0633\u062c"),
  (0xfcae, "\u0633\u062d"), (0xfcaf, "\u0633\u062e"), (0xfcb0, "\u0633\u0645"),
  (0xfcb1, "\u0635\u062d"), (0xfcb2, "\u0635\u062e"), (0xfcb3, "\u0635\u0645"),
  (0xfcb4, "\u0636\u062c"), (0xfcb5, "\u0636\u062d"), (0xfcb6, "\u0636\u062e"),
  (0xfcb7, "\u0636\u0645"), (0xfcb8, "\u0637\u062d"), (0xfcb9, "\u0638\u0645"),
  (0xfcba, "\u0639\u062c"), (0xfcbb, "\u0639\u0645"), (0xfcbc, "\u063a\u062c"),
  (0xfcbd, "\u063a\u0645"), (0xfcbe, "\u0641\u062c"), (0xfcbf, "\u0641\u062d"),
  (0xfcc0, "\u0641\u062e"), (0xfcc1, "\u0641\u0645"), (0xfcc2, "\u0642\u062d"),
  (0xfcc3, "\u0642\u0645"), (0xfcc4, "\u0643\u062c"), (0xfcc5, "\u0643\u062d"),
  (0xfcc6, "\u0643\u062e"), (0xfcc7, "\u0643\u0644"), (0xfcc8, "\u0643\u0645"),
  (0xfcc9, "\u0644\u062c"), (0xfcca, "\u0644\u062d"), (0xfccb, "\u0644\u062e"),
  (0xfccc, "\u0644\u0645"), (0xfccd, "\u0644\u0647"), (0xfcce, "\u0645\u062c"),
  (0xfccf, "\u0645\u062d"), (0xfcd0, "\u0645\u062e"), (0xfcd1, "\u0645\u0645"),
  (0xfcd2, "\u0646\u062c"), (0xfcd3, "\u0646\u062d"), (0xfcd4, "\u0646\u062e"),
  (0xfcd5, "\u0646\u0645"), (0xfcd6, "\u0646\u0647"), (0xfcd7, "\u0647\u062c"),
  (0xfcd8, "\u0647\u0645"), (0xfcd9, "\u0647\u0670"), (0xfcda, "\u064a\u062c"),
  (0xfcdb, "\u064a\u062d"), (0xfcdc, "\u064a\u062e"), (0xfcdd, "\u064a\u0645"),
  (0xfcde, "\u064a\u0647"), (0xfcdf, "\u0626\u0645"), (0xfce0, "\u0626\u0647"),
  (0xfce1, "\u0628\u0645"), (0xfce2, "\u0628\u0647"), (0xfce3, "\u062a\u0645"),
  (0xfce4, "\u062a\u0647"), (0xfce5, "\u062b\u0645"), (0xfce6, "\u062b\u0647"),
  (0xfce7, "\u0633\u0645"), (0xfce8, "\u0633\u0647"), (0xfce9, "\u0634\u0645"),
  (0xfcea, "\u0634\u0647"), (0xfceb, "\u0643\u0644"), (0xfcec, "\u0643\u0645"),
  (0xfced, "\u0644\u0645"), (0xfcee, "\u0646\u0645"), (0xfcef, "\u0646\u0647"),
  (0xfcf0, "\u064a\u0645"), (0xfcf1, "\u064a\u0647"), (0xfcf2, "\u0640\u064e\u0651"),
  (0xfcf3, "\u0640\u064f\u0651"), (0xfcf4, "\u0640\u0650\u0651"), (0xfcf5, "\u0637\u0649"),
  (0xfcf6, "\u0637\u064a"), (0xfcf7, "\u0639\u0649"), (0xfcf8, "\u0639\u064a"),
  (0xfcf9, "\u063a\u0649"), (0xfcfa, "\u063a\u064a"), (0xfcfb, "\u0633\u0649"),
  (0xfcfc, "\u0633\u064a"), (0xfcfd, "\u0634\u0649"), (0xfcfe, "\u0634\u064a"),
  (0xfcff, "\u062d\u0649"), (0xfd00, "\u062d\u064a"), (0xfd01, "\u062c\u0649"),
  (0xfd02, "\u062c\u064a"), (0xfd03, "\u062e\u0649"), (0xfd04, "\u062e\u064a"),
  (0xfd05, "\u0635\u0649"), (0xfd06, "\u0635\u064a"), (0xfd07, "\u0636\u0649"),
  (0xfd08, "\u0636\u064a"), (0xfd09, "\u0634\u062c"), (0xfd0a, "\u0634\u062d"),
  (0xfd0b, "\u0634\u062e"), (0xfd0c, "\u0634\u0645"), (0xfd0d, "\u0634\u0631"),
  (0xfd0e, "\u0633\u0631"), (0xfd0f, "\u0635\u0631"), (0xfd10, "\u0636\u0631"),
  (0xfd11, "\u0637\u0649"), (0xfd12, "\u0637\u064a"), (0xfd13, "\u0639\u0649"),
  (0xfd14, "\u0639\u064a"), (0xfd15, "\u063a\u0649"), (0xfd16, "\u063a\u064a"),
  (0xfd17, "\u0633\u0649"), (0xfd18, "\u0633\u064a"), (0xfd19, "\u0634\u0649"),
  (0xfd1a, "\u0634\u064a"), (0xfd1b, "\u062d\u0649"), (0xfd1c, "\u062d\u064a"),
  (0xfd1d, "\u062c\u0649"), (0xfd1e, "\u062c\u064a"), (0xfd1f, "\u062e\u0649"),
  (0xfd20, "\u062e\u064a"), (0xfd21, "\u0635\u0649"), (0xfd22, "\u0635\u064a"),
  (0xfd23, "\u0636\u0649"), (0xfd24, "\u0636\u064a"), (0xfd25, "\u0634\u062c"),
  (0xfd26, "\u0634\u062d"), (0xfd27, "\u0634\u062e"), (0xfd28, "\u0634\u0645"),
  (0xfd29, "\u0634\u0631"), (0xfd2a, "\u0633\u0631"), (0xfd2b, "\u0635\u0631"),
  (0xfd2c, "\u0636\u0631"), (0xfd2d, "\u0634\u062c"), (0xfd2e, "\u0634\u062d"),
  (0xfd2f, "\u0634\u062e"), (0xfd30, "\u0634\u0645"), (0xfd31, "\u0633\u0647"),
  (0xfd32, "\u0634\u0647"), (0xfd33, "\u0637\u0645"), (0xfd34, "\u0633\u062c"),
  (0xfd35, "\u0633\u062d"), (0xfd36, "\u0633\u062e"), (0xfd37, "\u0634\u062c"),
  (0xfd38, "\u0634\u062d"), (0xfd39, "\u0634\u062e"), (0xfd3a, "\u0637\u0645"),
  (0xfd3b, "\u0638\u0645"), (0xfd3c, "\u0627\u064b"), (0xfd3d, "\u0627\u064b"),
  (0xfd50, "\u062a\u062c\u0645"), (0xfd51, "\u062a\u062d\u062c"), (0xfd52, "\u062a\u062d\u062c"),
  (0xfd53, "\u062a\u062d\u0645"), (0xfd54, "\u062a\u062e\u0645"), (0xfd55, "\u062a\u0645\u062c"),
  (0xfd56, "\u062a\u0645\u062d"), (0xfd57, "\u062a\u0645\u062e"), (0xfd58, "\u062c\u0645\u062d"),
  (0xfd59, "\u062c\u0645\u062d"), (0xfd5a, "\u062d\u0645\u064a"), (0xfd5b, "\u062d\u0645\u0649"),
  (0xfd5c, "\u0633\u062d\u062c"), (0xfd5d, "\u0633\u062c\u062d"), (0xfd5e, "\u0633\u062c\u0649"),
  (0xfd5f, "\u0633\u0645\u062d"), (0xfd60, "\u0633\u0645\u062d"), (0xfd61, "\u0633\u0645\u062c"),
  (0xfd62, "\u0633\u0645\u0645"), (0xfd63, "\u0633\u0645\u0645"), (0xfd64, "\u0635\u062d\u062d"),
  (0xfd65, "\u0635\u062d\u062d"), (0xfd66, "\u0635\u0645\u0645"), (0xfd67, "\u0634\u062d\u0645"),
  (0xfd68, "\u0634\u062d\u0645"), (0xfd69, "\u0634\u062c\u064a"), (0xfd6a, "\u0634\u0645\u062e"),
  (0xfd6b, "\u0634\u0645\u062e"), (0xfd6c, "\u0634\u0645\u0645"), (0xfd6d, "\u0634\u0645\u0645"),
  (0xfd6e, "\u0636\u062d\u0649"), (0xfd6f, "\u0636\u062e\u0645"), (0xfd70, "\u0636\u062e\u0645"),
  (0xfd71, "\u0637\u0645\u062d"), (0xfd72, "\u0637\u0645\u062d"), (0xfd73, "\u0637\u0645\u0645"),
  (0xfd74, "\u0637\u0645\u064a"), (0xfd75, "\u0639\u062c\u0645"), (0xfd76, "\u0639\u0645\u0645"),
  (0xfd77, "\u0639\u0645\u0645"), (0xfd78, "\u0639\u0645\u0649"), (0xfd79, "\u063a\u0645\u0645"),
  (0xfd7a, "\u063a\u0645\u064a"), (0xfd7b, "\u063a\u0645\u0649"), (0xfd7c, "\u0641\u062e\u0645"),
  (0xfd7d, "\u0641\u062e\u0645"), (0xfd7e, "\u0642\u0645\u062d"), (0xfd7f, "\u0642\u0645\u0645"),
  (0xfd80, "\u0644\u062d\u0645"), (0xfd81, "\u0644\u062d\u064a"), (0xfd82, "\u0644\u062d\u0649"),
  (0xfd83, "\u0644\u062c\u062c"), (0xfd84, "\u0644\u062c\u062c"), (0xfd85, "\u0644\u062e\u0645"),
  (0xfd86, "\u0644\u062e\u0645"), (0xfd87, "\u0644\u0645\u062d"), (0xfd88, "\u0644\u0645\u062d"),
  (0xfd89, "\u0645\u062d\u062c"), (0xfd8a, "\u0645\u062d\u0645"), (0xfd8b, "\u0645\u062d\u064a"),
  (0xfd8c, "\u0645\u062c\u062d"), (0xfd8d, "\u0645\u062c\u0645"), (0xfd8e, "\u0645\u062e\u062c"),
  (0xfd8f, "\u0645\u062e\u0645"), (0xfd92, "\u0645\u062c\u062e"), (0xfd93, "\u0647\u0645\u062c"),
  (0xfd94, "\u0647\u0645\u0645"), (0xfd95, "\u0646\u062d\u0645"), (0xfd96, "\u0646\u062d\u0649"),
  (0xfd97, "\u0646\u062c\u0645"), (0xfd98, "\u0646\u062c\u0645"), (0xfd99, "\u0646\u062c\u0649"),
  (0xfd9a, "\u0646\u0645\u064a"), (0xfd9b, "\u0646\u0645\u0649"), (0xfd9c, "\u064a\u0645\u0645"),
  (0xfd9d, "\u064a\u0645\u0645"), (0xfd9e, "\u0628\u062e\u064a"), (0xfd9f, "\u062a\u062c\u064a"),
  (0xfda0, "\u062a\u062c\u0649"), (0xfda1, "\u062a\u062e\u064a"), (0xfda2, "\u062a\u062e\u0649"),
  (0xfda3, "\u062a\u0645\u064a"), (0xfda4, "\u062a\u0645\u0649"), (0xfda5, "\u062c\u0645\u064a"),
  (0xfda6, "\u062c\u062d\u0649"), (0xfda7, "\u062c\u0645\u0649"), (0xfda8, "\u0633\u062e\u0649"),
  (0xfda9, "\u0635\u062d\u064a"), (0xfdaa, "\u0634\u062d\u064a"), (0xfdab, "\u0636\u062d\u064a"),
  (0xfdac, "\u0644\u062c\u064a"), (0xfdad, "\u0644\u0645\u064a"), (0xfdae, "\u064a\u062d\u064a"),
  (0xfdaf, "\u064a\u062c\u064a"), (0xfdb0, "\u064a\u0645\u064a"), (0xfdb1, "\u0645\u0645\u064a"),
  (0xfdb2, "\u0642\u0645\u064a"), (0xfdb3, "\u0646\u062d\u064a"), (0xfdb4, "\u0642\u0645\u062d"),
  (0xfdb5, "\u0644\u062d\u0645"), (0xfdb6, "\u0639\u0645\u064a"), (0xfdb7, "\u0643\u0645\u064a"),
  (0xfdb8, "\u0646\u062c\u062d"), (0xfdb9, "\u0645\u062e\u064a"), (0xfdba, "\u0644\u062c\u0645"),
  (0xfdbb, "\u0643\u0645\u0645"), (0xfdbc, "\u0644\u062c\u0645"), (0xfdbd, "\u0646\u062c\u062d"),
  (0xfdbe, "\u062c\u062d\u064a"), (0xfdbf, "\u062d\u062c\u064a"), (0xfdc0, "\u0645\u062c\u064a"),
  (0xfdc1, "\u0641\u0645\u064a"), (0xfdc2, "\u0628\u062d\u064a"), (0xfdc3, "\u0643\u0645\u0645"),
  (0xfdc4, "\u0639\u062c\u0645"), (0xfdc5, "\u0635\u0645\u0645"), (0xfdc6, "\u0633\u062e\u064a"),
  (0xfdc7, "\u0646\u062c\u064a"), (0xfdf0, "\u0635\u0644\u06d2"), (0xfdf1, "\u0642\u0644\u06d2"),
  (0xfdf2, "\u0627\u0644\u0644\u0647"), (0xfdf3, "\u0627\u0643\u0628\u0631"),
  (0xfdf4, "\u0645\u062d\u0645\u062f"), (0xfdf5, "\u0635\u0644\u0639\u0645"),
  (0xfdf6, "\u0631\u0633\u0648\u0644"), (0xfdf7, "\u0639\u0644\u064a\u0647"),
  (0xfdf8, "\u0648\u0633\u0644\u0645"), (0xfdf9, "\u0635\u0644\u0649"),
  (0xfdfc, "\u0631\u06cc\u0627\u0644"), (0xfe71, "\u0640\u064b"), (0xfe77, "\u0640\u064e"),
  (0xfe79, "\u0640\u064f"), (0xfe7b, "\u0640\u0650"), (0xfe7d, "\u0640\u0651"),
  (0xfe7f, "\u0640\u0652"), (0xfef5, "\u0644\u0622"), (0xfef6, "\u0644\u0622"),
  (0xfef7, "\u0644\u0623"), (0xfef8, "\u0644\u0623"), (0xfef9, "\u0644\u0625"),
  (0xfefa, "\u0644\u0625"), (0xfefb, "\u0644\u0627"), (0xfefc, "\u0644\u0627"),
  (0x1f200, "\u307b\u304b"), (0x1f201, "\u30b3\u30b3"), (0x1f240, "\u3014\u672c\u3015"),
  (0x1f241, "\u3014\u4e09\u3015"), (0x1f242, "\u3014\u4e8c\u3015"), (0x1f243, "\u3014\u5b89\u3015"),
  (0x1f244, "\u3014\u70b9\u3015"), (0x1f245, "\u3014\u6253\u3015"), (0x1f246, "\u3014\u76d7\u3015"),
  (0x1f247, "\u3014\u52dd\u3015"), (0x1f248, "\u3014\u6557\u3015")]

/-- The text that a character is written for, if it is written for a text. -/
def expansion? (value : Char) : Option (List Char) :=
  (expansions.lookup value.toNat <|> ligatures.lookup value.toNat).map String.toList

/-- What a character is written for, unless no name holds it. -/
def fold (value : Char) : Option (List Char) :=
  if value.toNat < 0x80 then some [value.toLower]
  else if isRefused value then none
  else if isIgnored value then some []
  else
    match plain? value with
    | some plain => some [plain]
    | none => some ((expansion? value).getD [value])

/-- The character stands for itself: it is not refused, passed over or written for another text. -/
def isKept (value : Char) : Bool := fold value == some [value]

end PageAttributes.Url.Name
