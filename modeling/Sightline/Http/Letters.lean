/-! Characters that count for plain ones in the names of hosts: letters and digits in other shapes and
sizes, signs made of several of them, and full stops of other scripts. Others count for nothing. -/

set_option autoImplicit false

namespace Sightline.Http.Letters

def ignored : List (Nat × Nat) :=
  [(173, 173), (847, 847), (4447, 4448), (6068, 6069), (6155, 6159), (8203, 8203), (8288, 8292),
    (8298, 8303), (12644, 12644), (65024, 65039), (65279, 65279), (65440, 65440),
    (113824, 113827), (119155, 119162), (917760, 917999)]

/-- Characters that count for one plain character, in ranges from the first to the last. The plain
ones go up with them, beginning with the one that stands there. -/
def shaped : List (Nat × Nat × Char) :=
  [(170, 170, 'a'), (178, 179, '2'), (185, 185, '1'), (186, 186, 'o'), (383, 383, 's'),
    (688, 688, 'h'), (690, 690, 'j'), (691, 691, 'r'), (695, 695, 'w'), (696, 696, 'y'),
    (737, 737, 'l'), (738, 738, 's'), (739, 739, 'x'), (7468, 7468, 'a'), (7470, 7470, 'b'),
    (7472, 7473, 'd'), (7475, 7482, 'g'), (7484, 7484, 'o'), (7486, 7486, 'p'), (7487, 7487, 'r'),
    (7488, 7489, 't'), (7490, 7490, 'w'), (7491, 7491, 'a'), (7495, 7495, 'b'), (7496, 7497, 'd'),
    (7501, 7501, 'g'), (7503, 7503, 'k'), (7504, 7504, 'm'), (7506, 7506, 'o'), (7510, 7510, 'p'),
    (7511, 7512, 't'), (7515, 7515, 'v'), (7522, 7522, 'i'), (7523, 7523, 'r'), (7524, 7525, 'u'),
    (7580, 7580, 'c'), (7584, 7584, 'f'), (7611, 7611, 'z'), (8304, 8304, '0'), (8305, 8305, 'i'),
    (8308, 8313, '4'), (8319, 8319, 'n'), (8320, 8329, '0'), (8336, 8336, 'a'), (8337, 8337, 'e'),
    (8338, 8338, 'o'), (8339, 8339, 'x'), (8341, 8341, 'h'), (8342, 8345, 'k'), (8346, 8346, 'p'),
    (8347, 8348, 's'), (8450, 8450, 'c'), (8458, 8459, 'g'), (8460, 8460, 'h'), (8461, 8461, 'h'),
    (8462, 8462, 'h'), (8464, 8464, 'i'), (8465, 8465, 'i'), (8466, 8466, 'l'), (8467, 8467, 'l'),
    (8469, 8469, 'n'), (8473, 8475, 'p'), (8476, 8476, 'r'), (8477, 8477, 'r'), (8484, 8484, 'z'),
    (8488, 8488, 'z'), (8490, 8490, 'k'), (8492, 8493, 'b'), (8495, 8495, 'e'), (8496, 8497, 'e'),
    (8499, 8499, 'm'), (8500, 8500, 'o'), (8505, 8505, 'i'), (8517, 8517, 'd'), (8518, 8519, 'd'),
    (8520, 8521, 'i'), (8544, 8544, 'i'), (8548, 8548, 'v'), (8553, 8553, 'x'), (8556, 8556, 'l'),
    (8557, 8558, 'c'), (8559, 8559, 'm'), (8560, 8560, 'i'), (8564, 8564, 'v'), (8569, 8569, 'x'),
    (8572, 8572, 'l'), (8573, 8574, 'c'), (8575, 8575, 'm'), (9312, 9320, '1'), (9398, 9423, 'a'),
    (9424, 9449, 'a'), (9450, 9450, '0'), (11388, 11388, 'j'), (11389, 11389, 'v'),
    (12290, 12290, '.'), (42993, 42993, 's'), (42994, 42994, 'c'), (42995, 42995, 'f'),
    (42996, 42996, 'q'), (65123, 65123, '-'), (65293, 65294, '-'), (65296, 65305, '0'),
    (65313, 65338, 'a'), (65345, 65370, 'a'), (65377, 65377, '.'), (67493, 67493, 'q'),
    (117974, 117999, 'a'), (118000, 118009, '0'), (119808, 119833, 'a'), (119834, 119859, 'a'),
    (119860, 119885, 'a'), (119886, 119892, 'a'), (119894, 119911, 'i'), (119912, 119937, 'a'),
    (119938, 119963, 'a'), (119964, 119964, 'a'), (119966, 119967, 'c'), (119970, 119970, 'g'),
    (119973, 119974, 'j'), (119977, 119980, 'n'), (119982, 119989, 's'), (119990, 119993, 'a'),
    (119995, 119995, 'f'), (119997, 120003, 'h'), (120005, 120015, 'p'), (120016, 120041, 'a'),
    (120042, 120067, 'a'), (120068, 120069, 'a'), (120071, 120074, 'd'), (120077, 120084, 'j'),
    (120086, 120092, 's'), (120094, 120119, 'a'), (120120, 120121, 'a'), (120123, 120126, 'd'),
    (120128, 120132, 'i'), (120134, 120134, 'o'), (120138, 120144, 's'), (120146, 120171, 'a'),
    (120172, 120197, 'a'), (120198, 120223, 'a'), (120224, 120249, 'a'), (120250, 120275, 'a'),
    (120276, 120301, 'a'), (120302, 120327, 'a'), (120328, 120353, 'a'), (120354, 120379, 'a'),
    (120380, 120405, 'a'), (120406, 120431, 'a'), (120432, 120457, 'a'), (120458, 120483, 'a'),
    (120782, 120791, '0'), (120792, 120801, '0'), (120802, 120811, '0'), (120812, 120821, '0'),
    (120822, 120831, '0'), (127275, 127275, 'c'), (127276, 127276, 'r'), (127280, 127305, 'a'),
    (130032, 130041, '0')]

def joined : List (Nat × String) :=
  [(306, "ij"), (307, "ij"), (455, "lj"), (456, "lj"), (457, "lj"), (458, "nj"), (459, "nj"),
    (460, "nj"), (497, "dz"), (498, "dz"), (499, "dz"), (8360, "rs"), (8470, "no"), (8480, "sm"),
    (8481, "tel"), (8482, "tm"), (8507, "fax"), (8545, "ii"), (8546, "iii"), (8547, "iv"),
    (8549, "vi"), (8550, "vii"), (8551, "viii"), (8552, "ix"), (8554, "xi"), (8555, "xii"),
    (8561, "ii"), (8562, "iii"), (8563, "iv"), (8565, "vi"), (8566, "vii"), (8567, "viii"),
    (8568, "ix"), (8570, "xi"), (8571, "xii"), (9321, "10"), (9322, "11"), (9323, "12"),
    (9324, "13"), (9325, "14"), (9326, "15"), (9327, "16"), (9328, "17"), (9329, "18"),
    (9330, "19"), (9331, "20"), (12880, "pte"), (12881, "21"), (12882, "22"), (12883, "23"),
    (12884, "24"), (12885, "25"), (12886, "26"), (12887, "27"), (12888, "28"), (12889, "29"),
    (12890, "30"), (12891, "31"), (12892, "32"), (12893, "33"), (12894, "34"), (12895, "35"),
    (12977, "36"), (12978, "37"), (12979, "38"), (12980, "39"), (12981, "40"), (12982, "41"),
    (12983, "42"), (12984, "43"), (12985, "44"), (12986, "45"), (12987, "46"), (12988, "47"),
    (12989, "48"), (12990, "49"), (12991, "50"), (13004, "hg"), (13005, "erg"), (13006, "ev"),
    (13007, "ltd"), (13169, "hpa"), (13170, "da"), (13171, "au"), (13172, "bar"), (13173, "ov"),
    (13174, "pc"), (13175, "dm"), (13176, "dm2"), (13177, "dm3"), (13178, "iu"), (13184, "pa"),
    (13185, "na"), (13187, "ma"), (13188, "ka"), (13189, "kb"), (13190, "mb"), (13191, "gb"),
    (13192, "cal"), (13193, "kcal"), (13194, "pf"), (13195, "nf"), (13198, "mg"), (13199, "kg"),
    (13200, "hz"), (13201, "khz"), (13202, "mhz"), (13203, "ghz"), (13204, "thz"), (13206, "ml"),
    (13207, "dl"), (13208, "kl"), (13209, "fm"), (13210, "nm"), (13212, "mm"), (13213, "cm"),
    (13214, "km"), (13215, "mm2"), (13216, "cm2"), (13217, "m2"), (13218, "km2"), (13219, "mm3"),
    (13220, "cm3"), (13221, "m3"), (13222, "km3"), (13225, "pa"), (13226, "kpa"), (13227, "mpa"),
    (13228, "gpa"), (13229, "rad"), (13232, "ps"), (13233, "ns"), (13235, "ms"), (13236, "pv"),
    (13237, "nv"), (13239, "mv"), (13240, "kv"), (13241, "mv"), (13242, "pw"), (13243, "nw"),
    (13245, "mw"), (13246, "kw"), (13247, "mw"), (13251, "bq"), (13252, "cc"), (13253, "cd"),
    (13256, "db"), (13257, "gy"), (13258, "ha"), (13259, "hp"), (13260, "in"), (13261, "kk"),
    (13262, "km"), (13263, "kt"), (13264, "lm"), (13265, "ln"), (13266, "log"), (13267, "lx"),
    (13268, "mb"), (13269, "mil"), (13270, "mol"), (13271, "ph"), (13273, "ppm"), (13274, "pr"),
    (13275, "sr"), (13276, "sv"), (13277, "wb"), (13311, "gal"), (64256, "ff"), (64257, "fi"),
    (64258, "fl"), (64259, "ffi"), (64260, "ffl"), (64261, "st"), (64262, "st"), (127277, "cd"),
    (127278, "wz"), (127306, "hv"), (127307, "mv"), (127308, "sd"), (127309, "ss"),
    (127310, "ppv"), (127311, "wc"), (127338, "mc"), (127339, "md"), (127340, "mr"),
    (127376, "dj")]

def plain? (c : Char) : Option String :=
  let n := c.toNat
  if n < 128 then some c.toLower.toString
  else if ignored.any fun (first, last) => first ≤ n && n ≤ last then some ""
  else
    match shaped.find? fun (first, last, _) => first ≤ n && n ≤ last with
    | some (first, _, start) => some (Char.ofNat (start.toNat + (n - first))).toString
    | none => (joined.find? (·.1 = n)).map (·.2)

def plainText? (text : String) : Option String := do
  return String.join (← text.toList.mapM plain?)

end Sightline.Http.Letters
